import IssuerGate.Digest.Hmac

/-!
PBKDF2 with HMAC-SHA-256, one block of output.
-/

namespace IssuerGate.Pbkdf2

/-- The running code and the exclusive or of all codes, `n` rounds further. -/
def iterate (k : Hmac.Keyed) : Nat → Sha256.State → Sha256.State → Sha256.State
  | 0, _, acc => acc
  | n + 1, u, acc =>
    let next := k.codeOfDigest u
    iterate k n next (acc.xor next)

/-- The key derived from a password, a salt and a number of rounds, at least one. -/
def derive (password salt : Bytes) (rounds : Nat) : Bytes :=
  let k := Hmac.Keyed.ofKey password
  let first := k.code (salt ++ [0, 0, 0, 1])
  (iterate k (rounds - 1) first first).bytes

end IssuerGate.Pbkdf2
