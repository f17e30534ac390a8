import IssuerGate.Json.Display

/-!
Jobs: the side effects of quota decisions, on their way to a worker.
-/

namespace IssuerGate

/-- What a job tells of: a request beyond the limit, or an issuer close to it. -/
inductive Job.Kind where
  | exceeded
  | upgradeNotice
deriving DecidableEq, Repr

namespace Job.Kind

def all : List Kind := [exceeded, upgradeNotice]

def name : Kind → Text
  | exceeded => "rate-limit-exceeded"
  | upgradeNotice => "rate-limit-upgrade-notification"

def ofName? (t : Text) : Option Kind := all.find? (·.name = t)

/-- The kind that a value names; only texts are names. -/
def ofJson? : Json → Option Kind
  | .str t => ofName? t
  | _ => none

/-- What is said of a value that names no kind. -/
def unknown (v : Json) : Text := v.literal ++ Text.ofString " is not a valid RateLimitJobType"

end Job.Kind

/-- A job is its kind and the members of its payload. -/
structure Job where
  kind : Job.Kind
  payload : List (Text × Json)
deriving Repr

namespace Job

/-- The queue on which workers wait for jobs. -/
def queueName : Text := "rate-limit-queue"

/-- A payload member as a message shows it; a missing one shows as null does. -/
def shown (payload : List (Text × Json)) (name : String) : Text :=
  ((Json.lookup name payload).getD .null).display

/-- The issuer that a job is about. -/
def issuer (j : Job) : Text := shown j.payload "issuer_id"

/-- The job that tells of a denied request. -/
def exceeded (issuer : Json) (tier route : Text) (timestamp limit : Int) (count : Int) : Job where
  kind := .exceeded
  payload :=
    [
      ("issuer_id", issuer), ("tier", .str tier), ("route", .str route),
      ("timestamp", .int timestamp), ("limit", .int limit), ("count", .int count)
    ]

/-- The job that tells of an issuer who reached the upgrade mark. -/
def upgradeNotice (issuer : Json) (route : Text) (limit count : Int) : Job where
  kind := .upgradeNotice
  payload :=
    [("issuer_id", issuer), ("route", .str route), ("limit", .int limit), ("count", .int count)]

end Job

end IssuerGate
