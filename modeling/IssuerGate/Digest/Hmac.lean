import IssuerGate.Digest.Sha256

/-!
HMAC with SHA-256.

A key enters only through `preparedKey`, its block of 64 bytes: keys that prepare to the same block
give the same codes.
-/

namespace IssuerGate.Hmac

/-- The length of a key block in bytes. -/
def blockSize : Nat := 64

/-- A long key is replaced by its digest, and a short one is filled with zeros. -/
def preparedKey (key : Bytes) : Bytes :=
  let short := if key.length > blockSize then Sha256.digest key else key
  short ++ List.replicate (blockSize - short.length) 0

/-- The states after the inner and the outer key block. -/
structure Keyed where
  inner : Sha256.State
  outer : Sha256.State

/-- The states after the two paddings of a key block. -/
def Keyed.ofBlock (block : Bytes) : Keyed where
  inner := Sha256.absorb Sha256.initial (Sha256.words (block.map (· ^^^ 0x36)))
  outer := Sha256.absorb Sha256.initial (Sha256.words (block.map (· ^^^ 0x5C)))

/-- A key matters only through its block. -/
def Keyed.ofKey (key : Bytes) : Keyed := .ofBlock (preparedKey key)

/-- The code of a message under a key, as a state. -/
def Keyed.code (k : Keyed) (message : Bytes) : Sha256.State :=
  Sha256.finish k.outer blockSize (Sha256.finish k.inner blockSize message).bytes

/-- A digest as the only block after a key block: thirty-two bytes, a one bit, zeros and the length
of ninety-six bytes. -/
def digestBlock (s : Sha256.State) : Sha256.Block :=
  ⟨s.a, s.b, s.c, s.d, s.e, s.f, s.g, s.h, 0x80000000, 0, 0, 0, 0, 0, 0, 768⟩

/-- The code of a message that is itself a digest: two compressions. -/
def Keyed.codeOfDigest (k : Keyed) (s : Sha256.State) : Sha256.State :=
  Sha256.compress k.outer (digestBlock (Sha256.compress k.inner (digestBlock s)))

end IssuerGate.Hmac
