import IssuerGate.Json
import IssuerGate.Binary64.Decimal
import IssuerGate.Text.Hex

/-!
Reading JSON.

Beyond the standard the reader knows `NaN`, `Infinity` and `-Infinity`, joins escaped surrogate
pairs and keeps lone surrogates. It refuses whole numbers of more than `Text.maxDigits` digits and
values nested deeper than a given bound.
-/

namespace IssuerGate.Json

/-- Why a text is not read. -/
inductive Fault where
  | malformed
  | hugeInteger
  | tooDeep (opening : CodePoint)
deriving DecidableEq, Repr

/-- What a step of the reader gives: a part of the value and the text that is left. -/
abbrev Reading (α : Type) := Except Fault (α × Text)

def isSpace (c : CodePoint) : Bool :=
  c == .scalar ' ' || c == .scalar '\t' || c == .scalar '\n' || c == .scalar '\r'

def skipSpace (t : Text) : Text := t.dropWhile isSpace

/-- The text after a given word at its start. -/
def after? : Text → Text → Option Text
  | [], t => some t
  | w :: ws, c :: t => if c = w then after? ws t else none
  | _ :: _, [] => none

/-- The number that four hexadecimal digits denote. -/
def unit? (a b c d : CodePoint) : Option Nat := do
  let a ← Hex.digit? a
  let b ← Hex.digit? b
  let c ← Hex.digit? c
  let d ← Hex.digit? d
  return ((a * 16 + b) * 16 + c) * 16 + d

/-- The code point that an escaped high surrogate makes with an escaped low one. -/
def joined? (high low : Nat) : Option CodePoint :=
  if 0xD800 ≤ high ∧ high < 0xDC00 ∧ 0xDC00 ≤ low ∧ low < 0xE000 then
    CodePoint.ofNat? (0x10000 + (high - 0xD800) * 0x400 + (low - 0xDC00))
  else none

/-- The code point of a one-letter escape. -/
def escaped? (c : CodePoint) : Option CodePoint :=
  if c = .scalar '"' ∨ c = .scalar '\\' ∨ c = .scalar '/' then some c
  else if c = .scalar 'b' then some (.scalar '\x08')
  else if c = .scalar 'f' then some (.scalar '\x0c')
  else if c = .scalar 'n' then some (.scalar '\n')
  else if c = .scalar 'r' then some (.scalar '\r')
  else if c = .scalar 't' then some (.scalar '\t')
  else none

/-- Puts a code point in front of a string that is still being read. -/
def push (c : CodePoint) : Reading Text → Reading Text
  | .ok (t, rest) => .ok (c :: t, rest)
  | .error e => .error e

def pushUnit (n : Nat) (r : Reading Text) : Reading Text :=
  match CodePoint.ofNat? n with
  | some c => push c r
  | none => .error .malformed

/-- The rest of a string, after its opening quotation mark. -/
def readString : Text → Reading Text
  | [] => .error .malformed
  | c :: rest =>
    if c = .scalar '"' then .ok ([], rest)
    else if c = .scalar '\\' then
      match rest with
      | [] => .error .malformed
      | e :: rest =>
        if e = .scalar 'u' then
          match rest with
          | h1 :: h2 :: h3 :: h4 :: rest =>
            match unit? h1 h2 h3 h4 with
            | none => .error .malformed
            | some n =>
              match rest with
              -- a high surrogate joins a low one right behind it, and else stands alone
              | x :: y :: l1 :: l2 :: l3 :: l4 :: tail =>
                if x = .scalar '\\' ∧ y = .scalar 'u' then
                  match (unit? l1 l2 l3 l4).bind (joined? n) with
                  | some p => push p (readString tail)
                  | none => pushUnit n (readString (x :: y :: l1 :: l2 :: l3 :: l4 :: tail))
                else pushUnit n (readString (x :: y :: l1 :: l2 :: l3 :: l4 :: tail))
              | short => pushUnit n (readString short)
          | _ => .error .malformed
        else
          match escaped? e with
          | some p => push p (readString rest)
          | none => .error .malformed
    else if c.val < 0x20 then .error .malformed
    else push c (readString rest)

def isDigit (c : CodePoint) : Bool := c.asciiDigit?.isSome

/-- The digits at the start of a text and what follows them. -/
def spanDigits (t : Text) : Text × Text := (t.takeWhile isDigit, t.dropWhile isDigit)

def digitsValue (ds : Text) : Nat := Text.valueOfDigits (ds.filterMap CodePoint.asciiDigit?)

/-- The places after a decimal point, if a point with a digit follows. -/
def spanFraction : Text → Option Text × Text
  | c :: rest =>
    let (ds, tail) := spanDigits rest
    if c = .scalar '.' ∧ ds ≠ [] then (some ds, tail) else (none, c :: rest)
  | [] => (none, [])

/-- The power of ten after an exponent mark, if a mark with a digit follows. -/
def spanExponent : Text → Option Int × Text
  | c :: rest =>
    if c = .scalar 'e' ∨ c = .scalar 'E' then
      let (negative, body) := Text.signed rest
      let (ds, tail) := spanDigits body
      if ds ≠ [] then
        (some (if negative then -(digitsValue ds : Int) else digitsValue ds), tail)
      else (none, c :: rest)
    else (none, c :: rest)
  | [] => (none, [])

/-- The digits of a whole part: a zero alone, or digits that start with another one. -/
def spanWhole (t : Text) : Text × Text :=
  match t with
  | c :: rest => if c = .scalar '0' then ([c], rest) else spanDigits t
  | [] => ([], [])

/-- A number after its sign. A point or an exponent makes it a double. -/
def readNumber (negative : Bool) (t : Text) : Reading Json :=
  let (whole, rest) := spanWhole t
  if whole = [] then .error .malformed
  else
    let (fraction, rest) := spanFraction rest
    let (exponent, rest) := spanExponent rest
    -- without a point and an exponent the number is whole, and only its length can stop it
    if fraction.isNone && exponent.isNone then
      if whole.length > Text.maxDigits then .error .hugeInteger
      else
        let n : Int := digitsValue whole
        .ok (.int (if negative then -n else n), rest)
    else
      let places := fraction.getD []
      let m := digitsValue (whole ++ places)
      .ok (.num (.ofDecimal negative m (exponent.getD 0 - places.length)), rest)

/-- The values that are words. -/
def words : List (Text × Json) :=
  [
    ("null", .null), ("true", .bool true), ("false", .bool false), ("NaN", .num (.nan false)),
    ("Infinity", .num (.infinite false)), ("-Infinity", .num (.infinite true))
  ]

def readWord? (t : Text) : Option (Json × Text) :=
  words.findSome? fun (w, v) => (after? w t).map fun rest => (v, rest)

/-- A value that is no string, array or object. -/
def readScalar (t : Text) : Reading Json :=
  match readWord? t with
  | some r => .ok r
  | none =>
    match t with
    | c :: rest => if c = .scalar '-' then readNumber true rest else readNumber false t
    | [] => .error .malformed

mutual

/-- A value with at most `depth` arrays and objects inside each other. -/
def readValue : Nat → Nat → Text → Reading Json
  | 0, _, _ => .error .malformed
  | _ + 1, _, [] => .error .malformed
  | fuel + 1, depth, c :: rest =>
    if c = .scalar '"' then
      match readString rest with
      | .ok (t, rest) => .ok (.str t, rest)
      | .error e => .error e
    else if c = .scalar '[' then
      match depth with
      | 0 => .error (.tooDeep c)
      | depth + 1 =>
        match readItems fuel depth (skipSpace rest) true with
        | .ok (xs, rest) => .ok (.arr xs, rest)
        | .error e => .error e
    else if c = .scalar '\x7b' then
      match depth with
      | 0 => .error (.tooDeep c)
      | depth + 1 =>
        match readMembers fuel depth (skipSpace rest) true with
        | .ok (ms, rest) => .ok (.obj (collect ms), rest)
        | .error e => .error e
    else readScalar (c :: rest)

/-- The items of an array up to its closing bracket, which may stand at once only at the start. -/
def readItems : Nat → Nat → Text → Bool → Reading (List Json)
  | 0, _, _, _ => .error .malformed
  | _ + 1, _, [], _ => .error .malformed
  | fuel + 1, depth, c :: rest, start =>
    if c = .scalar ']' ∧ start then .ok ([], rest)
    else
      match readValue fuel depth (c :: rest) with
      | .error e => .error e
      | .ok (v, rest) =>
        match skipSpace rest with
        | [] => .error .malformed
        | d :: rest =>
          if d = .scalar ']' then .ok ([v], rest)
          else if d = .scalar ',' then
            match readItems fuel depth (skipSpace rest) false with
            | .ok (vs, rest) => .ok (v :: vs, rest)
            | .error e => .error e
          else .error .malformed

/-- The members of an object up to its closing brace, which may stand at once only at the start. -/
def readMembers : Nat → Nat → Text → Bool → Reading (List (Text × Json))
  | 0, _, _, _ => .error .malformed
  | _ + 1, _, [], _ => .error .malformed
  | fuel + 1, depth, c :: rest, start =>
    if c = .scalar '\x7d' ∧ start then .ok ([], rest)
    else if c = .scalar '"' then
      match readString rest with
      | .error e => .error e
      | .ok (name, rest) =>
        match skipSpace rest with
        | [] => .error .malformed
        | colon :: rest =>
          if colon = .scalar ':' then
            match readValue fuel depth (skipSpace rest) with
            | .error e => .error e
            | .ok (v, rest) =>
              match skipSpace rest with
              | [] => .error .malformed
              | d :: rest =>
                if d = .scalar '\x7d' then .ok ([(name, v)], rest)
                else if d = .scalar ',' then
                  match readMembers fuel depth (skipSpace rest) false with
                  | .ok (ms, rest) => .ok ((name, v) :: ms, rest)
                  | .error e => .error e
                else .error .malformed
          else .error .malformed
    else .error .malformed

end

/-- Reads a text that holds one value and white space around it. -/
def read (depth : Nat) (t : Text) : Except Fault Json :=
  match readValue (2 * t.length + 2) depth (skipSpace t) with
  | .error e => .error e
  | .ok (v, rest) => if skipSpace rest = [] then .ok v else .error .malformed

end IssuerGate.Json
