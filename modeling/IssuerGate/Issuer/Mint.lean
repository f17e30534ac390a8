import IssuerGate.ApiKey

/-!
The mint of new issuers: it draws identifiers, API keys and public keys, each from a stream of its
own, so that what it hands out is a function of the streams and of how much was drawn.
-/

namespace IssuerGate

/-- Three streams, indexed by the number of the draw from one on. -/
structure Mint.Source where
  keyBytes : Nat → Bytes
  publicKeyBytes : Nat → Bytes
  identifier : Nat → Text

/-- A source with the number of draws made so far from each stream. -/
structure Mint where
  source : Mint.Source
  keys : Nat := 0
  publicKeys : Nat := 0
  identifiers : Nat := 0

namespace Mint

/-- A source for rehearsals: each draw is its own number. -/
def Source.counting : Source where
  keyBytes k := Sha256.bigEndian 24 k
  publicKeyBytes k := Sha256.bigEndian 16 k
  identifier k := Text.ofString "00000000-0000-4000-8000-" ++ Text.hexDigits 12 k

/-- What a new issuer is given. -/
structure Issued where
  id : Text
  apiKey : Text
  publicKey : Text
deriving DecidableEq, Repr

/-- Draws for a new issuer. A public key is drawn only if the issuer brings none or an empty one. -/
def issue (m : Mint) (publicKey : Option Text) : Mint × Issued :=
  let key := ApiKey.ofBytes (m.source.keyBytes (m.keys + 1))
  let id := m.source.identifier (m.identifiers + 1)
  let drawn := { m with keys := m.keys + 1, identifiers := m.identifiers + 1 }
  match publicKey.filter (· ≠ []) with
  | some pk => (drawn, ⟨id, key, pk⟩)
  | none =>
    ({ drawn with publicKeys := m.publicKeys + 1 },
      ⟨id, key, Hex.encode (m.source.publicKeyBytes (m.publicKeys + 1))⟩)

end Mint

end IssuerGate
