import IssuerGate.Json.Reader
import IssuerGate.Word

/-!
Reading single values that come from outside: settings and members of a body.

Reading is generous. A text may stand for a number or a truth value, a truth value or a double
without places for a whole number, and any number for a double. What no reading helps is a fault,
which has a name that tells the sender what was expected.
-/

namespace IssuerGate.Field

/-- Why a value is not taken. -/
inductive Fault where
  | malformed
  | missing
  | noMembers
  | noText
  | surrogate
  | tooShort
  | tooLong
  | noChoice
  | noInt
  | intNumeral
  | intSize
  | intPlaces
  | notFinite
  | noDouble
  | doubleNumeral
  | noFlag
  | flagWord
deriving DecidableEq, Repr

def Fault.name : Fault → Text
  | malformed => "json_invalid"
  | missing => "missing"
  | noMembers => "model_attributes_type"
  | noText => "string_type"
  | surrogate => "string_unicode"
  | tooShort => "string_too_short"
  | tooLong => "string_too_long"
  | noChoice => "enum"
  | noInt => "int_type"
  | intNumeral => "int_parsing"
  | intSize => "int_parsing_size"
  | intPlaces => "int_from_float"
  | notFinite => "finite_number"
  | noDouble => "float_type"
  | doubleNumeral => "float_parsing"
  | noFlag => "bool_type"
  | flagWord => "bool_parsing"

/-- A value that was read, or what is wrong with it. -/
abbrev Checked (α : Type) := Except Fault α

def text : Json → Checked Text
  | .str t => .ok t
  | _ => .error .noText

/-- Null is read as nothing. -/
def nullable {α : Type} (check : Json → Checked α) : Json → Checked (Option α)
  | .null => .ok none
  | v => (check v).map some

/-! ### Whole numbers -/

/-- A minus sign or none, and a zero alone or digits that start with another one. A sign counts for
the length. -/
def plainInt (t : Text) : Checked Int :=
  let (negative, body) :=
    match t with
    | .scalar '-' :: rest => (true, rest)
    | _ => (false, t)
  let (digits, rest) := Json.spanWhole body
  if digits = [] then .error .intNumeral
  -- the length is looked at before the rest
  else if t.length - rest.length > Text.maxDigits then .error .intSize
  else if rest ≠ [] then .error .intNumeral
  else
    let n : Int := Json.digitsValue digits
    .ok (if negative then -n else n)

/-- What is left of a numeral after a zero: zeros and underscores go, up to the last of them before
the end or a point. `last` is what stands in front. -/
def afterZero (last : CodePoint) : Text → Option Text
  | [] => some [last]
  | c :: rest =>
    if c = .scalar '0' ∨ c = .scalar '_' then afterZero c rest
    else if Json.isDigit c ∨ c = .scalar '-' then some (c :: rest)
    else if c = .scalar '.' then some (last :: c :: rest)
    else none

/-- A numeral without superfluous zeros in front. -/
def withoutZeros? : Text → Option Text
  | [] => none
  | c :: rest =>
    if c = .scalar '0' then afterZero c rest
    else if Json.isDigit c ∨ c = .scalar '-' then some (c :: rest)
    else none

/-- The text before a decimal point that only zeros follow, at least one. -/
def withoutZeroPlaces (t : Text) : Text :=
  match t.cut? (.scalar '.') with
  | some (whole, places) => if places ≠ [] ∧ places.all (· == .scalar '0') then whole else t
  | none => t

/-- The text without its underscores, none of which may stand at an end or next to another one. -/
def withoutUnderscores? (t : Text) : Option Text :=
  let pieces := t.splitOn (.scalar '_')
  if pieces.all (· ≠ []) then some pieces.flatten else none

/-- Drops one plus sign, which no minus sign may follow. -/
def withoutPlus? : Text → Option Text
  | .scalar '+' :: .scalar '-' :: _ => none
  | .scalar '+' :: rest => some rest
  | t => some t

/-- A plain numeral made of one with a plus sign, zeros in front, zeros for places or underscores. A
minus sign may stand in front, behind the zeros in front, but not in both places. -/
def plainNumeral? (t : Text) : Option Text := do
  let t ← withoutPlus? t
  let (sign, body) : Text × Text :=
    match t with
    | .scalar '-' :: rest => (['-'], rest)
    | _ => ([], t)
  let body ← withoutUnderscores? (withoutZeroPlaces (← withoutZeros? body))
  return sign ++ body

/-- A whole number as a text, with white space around it. -/
def intOfText (t : Text) : Checked Int :=
  let t := t.stripBy Text.isNumeralBlank
  match plainInt t with
  | .error .intNumeral =>
    match (plainNumeral? t).map plainInt with
    | some (.ok n) => .ok n
    | _ => .error .intNumeral
  | r => r

/-- The whole number that a double is, if it is smaller in size than the bound of words. -/
def wordOfDouble? (x : Binary64) : Option Int :=
  x.int?.filter fun i => -Word.bound < i ∧ i < Word.bound

def intOfDouble (x : Binary64) : Checked Int :=
  if !x.isFinite then .error .notFinite
  else if x.int?.isNone then .error .intPlaces
  else
    match wordOfDouble? x with
    | some i => .ok i
    | none => .error .intSize

def int : Json → Checked Int
  | .int i => .ok i
  | .bool b => .ok b.toInt
  | .num x => intOfDouble x
  | .str t => intOfText t
  | _ => .error .noInt

/-! ### Doubles -/

def isInfinityWord (t : Text) : Bool :=
  let t := t.asciiLower
  t == Text.ofString "inf" || t == Text.ofString "infinity"

/-- A decimal numeral without a sign: digits with or without a point, at least one digit, and an
exponent. -/
def decimal? (negative : Bool) (t : Text) : Option Binary64 :=
  let (whole, rest) := Json.spanDigits t
  let (places, rest) :=
    match rest with
    | c :: tail => if c = .scalar '.' then Json.spanDigits tail else ([], rest)
    | [] => ([], rest)
  let (exponent, rest) := Json.spanExponent rest
  if rest = [] ∧ whole ++ places ≠ [] then
    some (.ofDecimal negative (Json.digitsValue (whole ++ places))
      (exponent.getD 0 - places.length))
  else none

/-- A numeral or a word for what is no finite number, with a sign or without. -/
def plainDouble? (t : Text) : Option Binary64 :=
  let (negative, body) := Text.signed t
  if isInfinityWord body then some (.infinite negative)
  else if body.asciiLower = Text.ofString "nan" then some (.nan negative)
  else decimal? negative body

/-- A double as a text: with white space around it, or else with underscores within. -/
def doubleOfText (t : Text) : Checked Binary64 :=
  match plainDouble? (t.stripBy Text.isNumeralBlank) with
  | some x => .ok x
  | none =>
    match (withoutUnderscores? t).bind plainDouble? with
    | some x => .ok x
    | none => .error .doubleNumeral

/-- A whole number beyond the largest double is no double. -/
def double : Json → Checked Binary64
  | .num x => .ok x
  | .int i =>
    match Binary64.ofInt? i with
    | some x => .ok x
    | none => .error .noDouble
  | .bool b => .ok (.roundRatio false b.toNat 1)
  | .str t => doubleOfText t
  | _ => .error .noDouble

/-! ### Truth values -/

def yesWords : List Text := ["1", "t", "true", "y", "yes", "on"]

def noWords : List Text := ["0", "f", "false", "n", "no", "off"]

/-- A word for yes or no, in any case and without white space around it. -/
def flagOfText (t : Text) : Checked Bool :=
  let t := t.asciiLower
  if yesWords.contains t then .ok true
  else if noWords.contains t then .ok false
  else .error .flagWord

/-- One and zero as yes and no. -/
def flagOfInt (i : Int) : Checked Bool :=
  if i = 0 then .ok false else if i = 1 then .ok true else .error .flagWord

/-- A truth value, or a word or a whole number that stands for one. Numbers that are no words of
sixty-four bits are not even looked at. -/
def flag : Json → Checked Bool
  | .bool b => .ok b
  | .str t => flagOfText t
  | .int i => if Word.fits i then flagOfInt i else .error .noFlag
  | .num x =>
    match wordOfDouble? x with
    | some i => flagOfInt i
    | none => .error .noFlag
  | _ => .error .noFlag

end IssuerGate.Field
