import IssuerGate.Text.Hex
import IssuerGate.Text.Utf8.Strict
import IssuerGate.Digest.Sha256

/-!
API keys are kept only as hashes. A caller may show any text as a key, and only a text that an
encoding carries has a hash.
-/

namespace IssuerGate.ApiKey

/-- The SHA-256 digest of the bytes of a key in hexadecimal. -/
def digest (key : Text) : Text := Hex.encode (Sha256.digest (Utf8.encode key))

/-- The hash under which a key is kept, if an encoding carries the key. -/
def hash (key : Text) : Except Utf8.Unencodable Text :=
  (Utf8.encodeStrict key).map fun bs => Hex.encode (Sha256.digest bs)

/-- A key has a hash iff it can be encoded, and that is its digest. -/
theorem hash_eq_ok_iff {key keyHash : Text} :
    hash key = .ok keyHash ↔ key.isEncodable = true ∧ digest key = keyHash := by
  unfold hash digest
  cases h : Utf8.encodeStrict key with
  | error f =>
    have hkey : key.isEncodable = false := Utf8.exists_encodeStrict_error_iff.mp ⟨f, h⟩
    simp [Except.map, hkey]
  | ok bs =>
    obtain ⟨hkey, rfl⟩ := Utf8.encodeStrict_eq_ok_iff.mp h
    simp [Except.map, hkey]

/-- The key with some random bytes. -/
def ofBytes (bs : Bytes) : Text := Text.ofString "ck_" ++ Hex.encode bs

end IssuerGate.ApiKey
