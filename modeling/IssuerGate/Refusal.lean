import IssuerGate.Json

/-!
A refusal: the status, the detail and the extra headers of an answer that turns a request away.
-/

namespace IssuerGate

/-- What the client is told. -/
structure Refusal where
  status : Nat
  detail : Json
  headers : List (Text × Text) := []
deriving Repr

/-- A refusal with a text for detail. -/
def Refusal.ofString (status : Nat) (detail : String) : Refusal := ⟨status, .ofString detail, []⟩

end IssuerGate
