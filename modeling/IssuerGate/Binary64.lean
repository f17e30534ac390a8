/-!
Double-precision numbers with exact rational readings.

A finite number is a sign, a mantissa below `2 ^ 53` and a power of two; `Binary64.roundRatio` is
the one place where rounding happens, to nearest with ties to the even mantissa. Products, quotients
and decimal numerals are exact fractions that are rounded once.
-/

namespace IssuerGate

/-- A double: the value of a finite one is `± mantissa * 2 ^ exponent`. Even one that is not a
number has a sign. -/
inductive Binary64 where
  | nan (negative : Bool)
  | infinite (negative : Bool)
  | finite (negative : Bool) (mantissa : Nat) (exponent : Int)
deriving DecidableEq, Repr, Inhabited

namespace Binary64

/-- The leading bit of a mantissa of fifty-three bits. -/
def leadingBit : Nat := 0x10000000000000

/-- The bit of the sign in the interchange format. -/
def signBit : Nat := 0x8000000000000000

/-- The exponent of the smallest numbers. -/
def minExponent : Int := -1074

/-- The exponent of the largest numbers. -/
def maxExponent : Int := 971

/-- The zero of a sign. -/
def zero (negative : Bool) : Binary64 := finite negative 0 minExponent

/-- A quotient rounded to nearest, a tie to even. -/
def divHalfEven (n d : Nat) : Nat :=
  let q := n / d
  let r := n % d
  if 2 * r < d then q
  else if 2 * r = d then q + q % 2
  else q + 1

/-- The fraction `n / d * 2 ^ (-e)`, as a pair. -/
def scaled (n d : Nat) (e : Int) : Nat × Nat :=
  if 0 ≤ e then (n, d * Nat.pow 2 e.toNat) else (n * Nat.pow 2 (-e).toNat, d)

/-- The exponent that gives a positive fraction fifty-three bits of mantissa, or the least one. -/
def targetExponent (n d : Nat) : Int :=
  let e : Int := (n.log2 : Int) - d.log2 - 52
  let (n', d') := scaled n d e
  max minExponent (if n' < leadingBit * d' then e - 1 else e)

/-- The double nearest to `± n / d`. -/
def roundRatio (negative : Bool) (n d : Nat) : Binary64 :=
  if n = 0 then zero negative
  else
    let e := targetExponent n d
    let (n', d') := scaled n d e
    let m := divHalfEven n' d'
    -- rounding up may carry into one bit more
    let (m, e) := if m = 2 * leadingBit then (leadingBit, e + 1) else (m, e)
    if e > maxExponent then infinite negative else finite negative m e

/-- The double nearest to `± m * 2 ^ e`. -/
def roundScaled (negative : Bool) (m : Nat) (e : Int) : Binary64 :=
  if 0 ≤ e then roundRatio negative (m * Nat.pow 2 e.toNat) 1
  else roundRatio negative m (Nat.pow 2 (-e).toNat)

def isFinite : Binary64 → Bool
  | finite .. => true
  | _ => false

/-- The double nearest to a whole number, if the number does not round beyond the largest double. -/
def ofInt? (i : Int) : Option Binary64 :=
  let x := roundRatio (i < 0) i.natAbs 1
  if x.isFinite then some x else none

/-- The double nearest to the quotient of whole numbers, if it does not round beyond the largest. -/
def divInt? (a : Int) (b : Nat) : Option Binary64 :=
  let x := roundRatio (a < 0) a.natAbs b
  if x.isFinite then some x else none

/-- The product, rounded once; a zero times an infinity is not a number. -/
def mul : Binary64 → Binary64 → Binary64
  | nan s, _ => nan s
  | _, nan t => nan t
  | infinite s, infinite t => infinite (s != t)
  | infinite s, finite t m _ => if m = 0 then nan false else infinite (s != t)
  | finite s m _, infinite t => if m = 0 then nan false else infinite (s != t)
  | finite s m e, finite t n f => roundScaled (s != t) (m * n) (e + f)

/-- The value of a finite double is this numerator over this denominator. -/
def ratio (negative : Bool) (m : Nat) (e : Int) : Int × Nat :=
  let (n, d) := if 0 ≤ e then (m * Nat.pow 2 e.toNat, 1) else (m, Nat.pow 2 (-e).toNat)
  (if negative then -(n : Int) else n, d)

/-- Why a whole number has no double, or a double no whole number. -/
inductive Fault where
  | tooLarge
  | notANumber
  | infinite
deriving DecidableEq, Repr

/-- The largest whole number not above a double. -/
def floor : Binary64 → Except Fault Int
  | nan _ => .error .notANumber
  | infinite _ => .error .infinite
  | finite s m e => let (n, d) := ratio s m e; .ok (n.fdiv d)

/-- The whole part of a double: its places are cut off. -/
def truncate : Binary64 → Except Fault Int
  | nan _ => .error .notANumber
  | infinite _ => .error .infinite
  | finite s m e => let (n, d) := ratio s m e; .ok (n.tdiv d)

/-- The whole number that a double is, if it has no places. -/
def int? : Binary64 → Option Int
  | finite s m e => let (n, d) := ratio s m e; if n % d = 0 then some (n / d) else none
  | _ => none

/-- The least whole number not below a finite double. -/
def ceil? : Binary64 → Option Int
  | finite s m e => let (n, d) := ratio s m e; some (-((-n).fdiv d))
  | _ => none

/-- Is the double at most zero? Not a number is not. -/
def isNonPositive : Binary64 → Bool
  | nan _ => false
  | infinite s => s
  | finite s m _ => s || m == 0

/-- Is the double a zero of either sign? -/
def isZero : Binary64 → Bool
  | finite _ m _ => m == 0
  | _ => false

/-- The sixty-four bits of the interchange format. -/
def bits : Binary64 → Nat
  | nan s => (if s then signBit else 0) + 0x7FF8000000000000
  | infinite s => (if s then signBit else 0) + 0x7FF0000000000000
  | finite s m e =>
    (if s then signBit else 0)
      + (if m < leadingBit then m else (e + 1075).toNat * leadingBit + (m - leadingBit))

end Binary64

end IssuerGate
