import IssuerGate.Binary64
import IssuerGate.Text.Numeral

/-!
Doubles in decimal: the nearest double to a numeral, the fewest digits that read back, and fixed
places.
-/

namespace IssuerGate.Binary64

/-- The number of decimal digits of a number; one for zero. -/
def decimalWidth (n : Nat) : Nat := (Nat.toDigits 10 n).length

/-- The double nearest to `± m * 10 ^ e`. Numerals far out of range are settled by their width. -/
def ofDecimal (negative : Bool) (m : Nat) (e : Int) : Binary64 :=
  let top := e + decimalWidth m
  if m = 0 ∨ top < -330 then zero negative
  else if top > 320 then infinite negative
  else if 0 ≤ e then roundRatio negative (m * Nat.pow 10 e.toNat) 1
  else roundRatio negative m (Nat.pow 10 (-e).toNat)

/-- The power of ten of the leading digit of a positive fraction. -/
def leadingPower (n d : Nat) : Int :=
  if d ≤ n then (decimalWidth (n / d) : Int) - 1
  else -(decimalWidth ((d - 1) / n) : Int)

/-- The neighbours of a positive fraction on the grid of multiples of `10 ^ k`, as multiples, and
whether the upper one is nearer. A tie goes to the even neighbour. -/
def gridNeighbours (n d : Nat) (k : Int) : Nat × Nat × Bool :=
  let (n, d) := if 0 ≤ k then (n, d * Nat.pow 10 k.toNat) else (n * Nat.pow 10 (-k).toNat, d)
  let q := n / d
  let r := n % d
  (q, q + 1, 2 * r > d || (2 * r == d && q % 2 == 1))

/-- A decimal on a grid of `digits` digits that reads back as the double, the nearer one if both
neighbours do. -/
def onGrid? (m : Nat) (e : Int) (digits : Nat) : Option (Nat × Int) :=
  let n := (ratio false m e).1.toNat
  let d := (ratio false m e).2
  -- the grid on which the leading digit is the first of so many digits
  let k := leadingPower n d + 1 - digits
  let (lo, hi, upper) := gridNeighbours n d k
  let reads (c : Nat) : Bool := ofDecimal false c k == finite false m e
  let (near, far) := if upper then (hi, lo) else (lo, hi)
  if reads near then some (near, k) else if reads far then some (far, k) else none

/-- The decimal with the fewest digits that reads back as a positive double. -/
def shortest (m : Nat) (e : Int) : Nat × Int :=
  ((List.range 17).findSome? fun i => onGrid? m e (i + 1)).getD (m, 0)

/-- Digits without the zeros at their end. -/
def significant (ds : Text) : Text := (ds.reverse.dropWhile (· == .scalar '0')).reverse

def zeros (n : Nat) : Text := List.replicate n (.scalar '0')

/-- Digits with the decimal point after the digit for `10 ^ top`. Numbers from `10 ^ -4` up to
`10 ^ 16` are positional with at least one place; the others have an exponent of at least two
digits. -/
def layout (ds : Text) (top : Int) : Text :=
  if -4 ≤ top ∧ top < 16 then
    if top < 0 then Text.ofString "0." ++ zeros (-top - 1).toNat ++ ds
    else
      let whole := top.toNat + 1
      let places := ds.drop whole
      ds.take whole ++ zeros (whole - ds.length) ++ [.scalar '.']
        ++ (if places.isEmpty then zeros 1 else places)
  else
    let mantissa :=
      match ds with
      | [d] => [d]
      | d :: rest => d :: .scalar '.' :: rest
      | [] => []
    mantissa ++ [.scalar 'e', .scalar (if top < 0 then '-' else '+')]
      ++ Text.padded 2 (Text.ofNat top.natAbs)

def Fault.message : Fault → Text
  | tooLarge => "int too large to convert to float"
  | notANumber => "cannot convert float NaN to integer"
  | infinite => "cannot convert float infinity to integer"

/-- The minus sign of a negative number. -/
def sign (negative : Bool) : Text := if negative then "-" else ""

/-- The shortest text that reads back as the same double. -/
def text : Binary64 → Text
  | nan _ => "nan"
  | infinite s => sign s ++ Text.ofString "inf"
  | finite s m e =>
    if m = 0 then sign s ++ Text.ofString "0.0"
    else
      let (n, k) := shortest m e
      let ds := Text.ofNat n
      sign s ++ layout (significant ds) (k + ds.length - 1)

/-- One decimal place, rounded exactly, a tie to even. -/
def onePlace : Binary64 → Text
  | finite s m e =>
    let (n, d) := ratio false m e
    let tenths := divHalfEven (10 * n.toNat) d
    sign s ++ Text.ofNat (tenths / 10) ++ [.scalar '.'] ++ Text.ofNat (tenths % 10)
  | x => x.text

/-- The sixteen hexadecimal digits of the interchange format. -/
def hexBits (x : Binary64) : Text :=
  Text.padded 16 (Text.ofChars (Nat.toDigits 16 x.bits))

end IssuerGate.Binary64
