import IssuerGate.Json

/-!
The two tiers of an issuer.
-/

namespace IssuerGate

/-- Issuers are free or paid. -/
inductive Tier where
  | free
  | paid
deriving DecidableEq, Repr, Inhabited

namespace Tier

def name : Tier → Text
  | free => "free"
  | paid => "paid"

/-- The tier with a name. -/
def ofName? (t : Text) : Option Tier :=
  if t = free.name then some free else if t = paid.name then some paid else none

/-- A stored tier: whatever names no tier means the free one. -/
def ofStored : Json → Tier
  | .str t => (ofName? t).getD free
  | _ => free

/-- A tier is read back from its name. -/
theorem ofStored_name (t : Tier) : ofStored (.str t.name) = t := by cases t <;> rfl

end Tier

end IssuerGate
