import IssuerGate.Text.Blank
import IssuerGate.Text.Digit

/-!
Whole numbers in decimal. Writing gives the digits and a minus sign; reading is generous: white
space around, a sign, single underscores between digits and the digits of any script.
-/

namespace IssuerGate.Text

def ofNat (n : Nat) : Text := Text.ofChars (Nat.toDigits 10 n)

def ofInt : Int → Text
  | .ofNat n => ofNat n
  | .negSucc n => .scalar '-' :: ofNat (n + 1)

/-- Digits with zeros in front, up to a width. -/
def padded (width : Nat) (ds : Text) : Text :=
  List.replicate (width - ds.length) (.scalar '0') ++ ds

/-- More digits than this are neither read nor written. -/
def maxDigits : Nat := 4300

/-- Does a whole number have few enough digits to be written? -/
def isWritable (i : Int) : Bool := (ofNat i.natAbs).length ≤ maxDigits

/-- A number below a power of ten has no more digits than the exponent says. -/
theorem isWritable_of_lt {i : Int} {k : Nat} (hpos : 0 < k) (hk : k ≤ maxDigits)
    (h : i.natAbs < Nat.pow 10 k) : isWritable i = true := by
  have hlength : (Nat.toDigits 10 i.natAbs).length ≤ k :=
    (Nat.length_toDigits_le_iff (by decide) hpos).mpr h
  unfold isWritable ofNat Text.ofChars
  rw [decide_eq_true_iff, List.length_map]
  exact Nat.le_trans hlength hk

/-- What is said of a number that has too many digits to be written. -/
def unwritableMessage : Text :=
  Text.ofString "Exceeds the limit (" ++ ofNat maxDigits
    ++ Text.ofString " digits) for integer string conversion; use sys.set_int_max_str_digits() to "
    ++ Text.ofString "increase the limit"

/-- The number that a list of digits denotes. -/
def valueOfDigits (ds : List Nat) : Nat := ds.foldl (fun n d => 10 * n + d) 0

/-- Digits of any script with single underscores between them. -/
def groupedDigits? (digit? : CodePoint → Option Nat) : Text → Option (List Nat)
  | [] => none
  | [c] => (digit? c).map ([·])
  | c :: d :: rest =>
    match digit? c with
    | none => none
    | some n =>
      if d = .scalar '_' then (groupedDigits? digit? rest).map (n :: ·)
      else (groupedDigits? digit? (d :: rest)).map (n :: ·)

/-- The sign in front, if any, and what follows it. -/
def signed : Text → Bool × Text
  | .scalar '-' :: rest => (true, rest)
  | .scalar '+' :: rest => (false, rest)
  | t => (false, t)

/-- White space around a numeral: within ASCII without the information separators. -/
def isNumeralBlank (c : CodePoint) : Bool :=
  c.isAsciiBlank || (!c.isAscii && c.isBlank)

/-- Why a text is no whole number that is read. -/
inductive NumeralFault where
  | malformed
  | tooLong
deriving DecidableEq, Repr

/-- Reads a whole number, with the digits that `digit?` knows and the white space that `blank`
knows. -/
def readInt (blank : CodePoint → Bool) (digit? : CodePoint → Option Nat) (t : Text) :
    Except NumeralFault Int :=
  let (negative, body) := signed (t.stripBy blank)
  match groupedDigits? digit? body with
  | none => .error .malformed
  | some ds =>
    if ds.length > maxDigits then .error .tooLong
    else
      let n : Int := valueOfDigits ds
      .ok (if negative then -n else n)

/-- A whole number in the digits of any script. -/
def toInt? (t : Text) : Option Int :=
  (readInt isNumeralBlank CodePoint.decimalValue? t).toOption

end IssuerGate.Text
