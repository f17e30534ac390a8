import IssuerGate.Field
import IssuerGate.Settings

/-!
Settings from values that are given for them by name.

Every setting is read on its own, so all that are wrong are reported together, in the order of the
settings. A setting for which nothing is given has its default.
-/

namespace IssuerGate.Settings

/-- A setting that is not read, and why. -/
structure FieldError where
  field : Text
  fault : Field.Fault
deriving DecidableEq, Repr

/-- A setting, and what is wrong with the value given for it. -/
def field {α : Type} (given : Text → Option Json) (name : Text) (read : Json → Field.Checked α)
    (default : α) : α × List FieldError :=
  match given name with
  | none => (default, [])
  | some v =>
    match read v with
    | .ok a => (a, [])
    | .error f => (default, [⟨name, f⟩])

/-- Reads all settings. -/
def ofValues (given : Text → Option Json) : Except (List FieldError) Settings :=
  let d : Settings := {}
  let text (name : Text) := field given name Field.text
  let textOrNull (name : Text) := field given name (Field.nullable Field.text)
  let int (name : Text) := field given name Field.int
  let double (name : Text) := field given name Field.double
  let flag (name : Text) := field given name Field.flag
  let logLevel := text "log_level" d.logLevel
  let databaseUrl := textOrNull "database_url" d.databaseUrl
  let databaseEcho := flag "database_echo" d.databaseEcho
  let brokerUrl := textOrNull "redis_url" d.brokerUrl
  let username := textOrNull "auth_basic_username" d.adminUsername
  let passwordHash := textOrNull "auth_basic_password_hash" d.adminPasswordHash
  let passwordPlain := textOrNull "auth_basic_password_plain" d.adminPasswordPlain
  let storePath := text "issuer_store_path" d.storePath
  let ttl := int "issuer_cache_ttl_seconds" d.cacheTtlSeconds
  let timeout := double "issuer_lookup_timeout_seconds" d.lookupTimeoutSeconds
  let failOpen := flag "issuer_lookup_fail_open" d.lookupFailOpen
  let window := int "rate_limit_window_ms" d.quota.windowMs
  let free := int "rate_limit_free_per_window" d.quota.freeLimit
  let paid := int "rate_limit_paid_per_window" d.quota.paidLimit
  let threshold := double "rate_limit_upgrade_threshold" d.quota.upgradeThreshold
  let sweep := int "rate_limit_sweep_interval_ms" d.quota.sweepMs
  let errors :=
    List.flatten
      [
        logLevel.2, databaseUrl.2, databaseEcho.2, brokerUrl.2, username.2, passwordHash.2,
        passwordPlain.2, storePath.2, ttl.2, timeout.2, failOpen.2, window.2, free.2, paid.2,
        threshold.2, sweep.2
      ]
  if errors ≠ [] then .error errors
  else
    .ok
      { logLevel := logLevel.1
        databaseUrl := databaseUrl.1
        databaseEcho := databaseEcho.1
        brokerUrl := brokerUrl.1
        adminUsername := username.1
        adminPasswordHash := passwordHash.1
        adminPasswordPlain := passwordPlain.1
        storePath := storePath.1
        cacheTtlSeconds := ttl.1
        lookupTimeoutSeconds := timeout.1
        lookupFailOpen := failOpen.1
        quota := ⟨window.1, free.1, paid.1, threshold.1, sweep.1⟩ }

/-- Reads all settings from members of these names; other members say nothing. -/
def ofMembers (ms : List (Text × Json)) : Except (List FieldError) Settings :=
  ofValues fun name => Json.lookup name ms

end IssuerGate.Settings
