import IssuerGate.Text.Quoted
import IssuerGate.Text.Utf8

/-!
Bytes as pairs of hexadecimal digits in small letters.
-/

namespace IssuerGate.Hex

def encode (bs : Bytes) : Text := bs.flatMap fun b => Text.hexDigits 2 b.toNat

/-- The value of a hexadecimal digit of either case. -/
def digit? (c : CodePoint) : Option Nat :=
  if 48 ≤ c.val ∧ c.val ≤ 57 then some (c.val - 48)
  else if 97 ≤ c.val ∧ c.val ≤ 102 then some (c.val - 87)
  else if 65 ≤ c.val ∧ c.val ≤ 70 then some (c.val - 55)
  else none

/-- A hexadecimal digit is read back. -/
theorem digit?_hexDigit : ∀ n < 16, digit? (Text.hexDigit n) = some n := by decide

def decode? : Text → Option Bytes
  | [] => some []
  | [_] => none
  | a :: b :: rest => do
    let hi ← digit? a
    let lo ← digit? b
    let bs ← decode? rest
    return UInt8.ofNat (16 * hi + lo) :: bs

/-- Bytes in hexadecimal are read back. -/
theorem decode?_encode (bs : Bytes) : decode? (encode bs) = some bs := by
  induction bs with
  | nil => rfl
  | cons b bs ih =>
    have hb : b.toNat < 256 := b.toNat_lt
    have hhi := digit?_hexDigit (b.toNat / 16 % 16) (by omega)
    have hlo := digit?_hexDigit (b.toNat % 16) (by omega)
    have hval : 16 * (b.toNat / 16 % 16) + b.toNat % 16 = b.toNat := by omega
    have hpair : Text.hexDigits 2 b.toNat
        = [Text.hexDigit (b.toNat / 16 % 16), Text.hexDigit (b.toNat % 16)] := rfl
    change (decode? (Text.hexDigits 2 b.toNat ++ encode bs)) = some (b :: bs)
    rw [hpair, List.cons_append, List.cons_append, List.nil_append, decode?, hhi, hlo, ih]
    simp only [Option.bind_eq_bind, Option.bind_some, Option.pure_def, hval, UInt8.ofNat_toNat]

end IssuerGate.Hex
