import IssuerGate.Text.Numeral
import IssuerGate.Text.Quoted
import IssuerGate.Text.Utf8

/-!
UTF-8 of texts without surrogates. A text with surrogates is refused, and `Utf8.Unencodable` says
where the first of them stand.
-/

namespace IssuerGate.Utf8

/-- The first surrogates of a text that stand side by side: how many code points stand before them,
which is the first of them, and how many more there are. -/
structure Unencodable where
  start : Nat
  first : CodePoint
  further : Nat
deriving DecidableEq, Repr

def Unencodable.message (f : Unencodable) : Text :=
  let place :=
    if f.further = 0 then
      Text.ofString " '\\u" ++ Text.hexDigits 4 f.first.val ++ Text.ofString "' in position "
        ++ Text.ofNat f.start
    else
      Text.ofString "s in position " ++ Text.ofNat f.start ++ Text.ofString "-"
        ++ Text.ofNat (f.start + f.further)
  Text.ofString "'utf-8' codec can't encode character" ++ place
    ++ Text.ofString ": surrogates not allowed"

/-- The first surrogates of a text of which the first code point has a given position. -/
def unencodableFrom? (i : Nat) : Text → Option Unencodable
  | [] => none
  | c :: t =>
    if c.char?.isSome then unencodableFrom? (i + 1) t
    else some ⟨i, c, (t.takeWhile fun d => d.char?.isNone).length⟩

/-- The bytes of a text without surrogates. -/
def encodeStrict (t : Text) : Except Unencodable Bytes :=
  match unencodableFrom? 0 t with
  | some f => .error f
  | none => .ok (encode t)

/-- Nothing stands in the way of encoding a text iff it is made of characters. -/
theorem unencodableFrom?_eq_none_iff {i : Nat} {t : Text} :
    unencodableFrom? i t = none ↔ t.isEncodable = true := by
  induction t generalizing i with
  | nil => exact ⟨fun _ => rfl, fun _ => rfl⟩
  | cons c t ih =>
    have hcons : Text.isEncodable (c :: t) = (c.char?.isSome && Text.isEncodable t) := rfl
    rw [unencodableFrom?, hcons]
    cases c.char?.isSome with
    | true => simpa using ih
    | false => simp

/-- **What is encoded has no surrogates**, and all of that is encoded. -/
theorem encodeStrict_eq_ok_iff {t : Text} {bs : Bytes} :
    encodeStrict t = .ok bs ↔ t.isEncodable = true ∧ encode t = bs := by
  unfold encodeStrict
  rw [← unencodableFrom?_eq_none_iff (i := 0)]
  cases unencodableFrom? 0 t <;> simp

/-- Encoding fails iff the text cannot be encoded. -/
theorem exists_encodeStrict_error_iff {t : Text} :
    (∃ f, encodeStrict t = .error f) ↔ t.isEncodable = false := by
  rw [← Bool.not_eq_true, ← unencodableFrom?_eq_none_iff (i := 0)]
  unfold encodeStrict
  cases unencodableFrom? 0 t <;> simp

end IssuerGate.Utf8
