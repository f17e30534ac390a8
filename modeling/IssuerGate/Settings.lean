import IssuerGate.Admin.Access
import IssuerGate.Directory
import IssuerGate.Job.Backend
import IssuerGate.Quota

/-!
The settings of a deployment, and what is built from them.
-/

namespace IssuerGate

/-- The settings with their defaults. -/
structure Settings where
  logLevel : Text := "INFO"
  databaseUrl : Option Text := none
  databaseEcho : Bool := false
  brokerUrl : Option Text := none
  adminUsername : Option Text := none
  adminPasswordHash : Option Text := none
  adminPasswordPlain : Option Text := none
  storePath : Text := "storage/issuers.jsonl"
  cacheTtlSeconds : Int := 300
  lookupTimeoutSeconds : Binary64 := .ofDecimal false 2 0
  lookupFailOpen : Bool := true
  quota : Quota := {}
deriving Repr

namespace Settings

def admin (s : Settings) : Admin.Account :=
  ⟨s.adminUsername, s.adminPasswordHash, s.adminPasswordPlain⟩

/-- An empty directory, swept as often as the counters are. -/
def directory (s : Settings) (now : Int) : Directory :=
  .start (s.cacheTtlSeconds * 1000) (.seconds s.lookupTimeoutSeconds) s.quota.sweepMs now

/-- The database that is configured: there is one engine for each. -/
def engine? (s : Settings) : Option (Text × Bool) :=
  (s.databaseUrl.filter (· ≠ [])).map fun url => (url, s.databaseEcho)

def noDatabase : Text := "DATABASE_URL is not configured"

/-- Where jobs go: to the configured broker, or into the process. -/
def jobBackend (s : Settings) : Step Backend Unit :=
  match s.brokerUrl.filter (· ≠ []) with
  | some _ => ⟨.broker {}, [], ()⟩
  | none =>
    ⟨.memory .standard,
      Log.info [Text.ofString "REDIS_URL not set; rate limit jobs stay in an in-process queue"],
      ()⟩

end Settings

end IssuerGate
