import IssuerGate.Binary64.Decimal
import IssuerGate.Tier

/-!
The quota of a deployment: how long a window lasts, how many requests each tier may make in one, and
at which share of its limit a free issuer is nudged to upgrade.
-/

namespace IssuerGate

/-- The times are in milliseconds. -/
structure Quota where
  windowMs : Int := 60000
  freeLimit : Int := 60
  paidLimit : Int := 600
  upgradeThreshold : Binary64 := .ofDecimal false 8 (-1)
  sweepMs : Int := 60000
deriving Repr, Inhabited

namespace Quota

/-- The requests that a tier may make in a window. -/
def limitFor (q : Quota) : Tier → Int
  | .free => q.freeLimit
  | .paid => q.paidLimit

/-- The count at which an issuer with a limit is nudged: the share of the limit, in doubles, rounded
down. -/
def upgradeMark (q : Quota) (limit : Int) : Except Binary64.Fault Int :=
  match Binary64.ofInt? limit with
  | none => .error .tooLarge
  | some l => (l.mul q.upgradeThreshold).floor

end Quota

end IssuerGate
