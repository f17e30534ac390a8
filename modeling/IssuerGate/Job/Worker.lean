import IssuerGate.Job
import IssuerGate.Log

/-!
The worker: what happens to a job once it arrives.
-/

namespace IssuerGate.Job

/-- Reports an exceeded limit as a warning and an upgrade notice as information. -/
def handle (kind : Kind) (payload : List (Text × Json)) : Log :=
  let shown := shown payload
  match kind with
  | .exceeded =>
    Log.warning
      ["Issuer ", shown "issuer_id", " (", shown "tier", ") exceeded ", shown "limit",
        " requests on ", shown "route"]
  | .upgradeNotice =>
    Log.info
      ["Issuer ", shown "issuer_id", " reached ", shown "count", "/", shown "limit",
        " requests on ", shown "route"]

/-- The answer of a finished task. -/
def done : Text := "ok"

/-- Runs the task that a value names, if a worker knows it. -/
def runTask? (name : Json) (payload : List (Text × Json)) : Option Log :=
  (Kind.ofJson? name).map fun kind => handle kind payload

end IssuerGate.Job
