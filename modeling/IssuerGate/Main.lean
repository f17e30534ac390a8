import IssuerGate.Seed
import IssuerGate.Settings.Environment
import Std.Time.DateTime.Timestamp

/-!
The seeding command: it creates one issuer in the configured file and prints its API key.
-/

namespace IssuerGate.Command

/-- The environment variables that settings are read from. -/
def settingNames : List String :=
  [
    "LOG_LEVEL", "DATABASE_URL", "DATABASE_ECHO", "REDIS_URL", "AUTH_BASIC_USERNAME",
    "AUTH_BASIC_PASSWORD_HASH", "AUTH_BASIC_PASSWORD_PLAIN", "ISSUER_STORE_PATH",
    "ISSUER_CACHE_TTL_SECONDS", "ISSUER_LOOKUP_TIMEOUT_SECONDS", "ISSUER_LOOKUP_FAIL_OPEN",
    "RATE_LIMIT_WINDOW_MS", "RATE_LIMIT_FREE_PER_WINDOW", "RATE_LIMIT_PAID_PER_WINDOW",
    "RATE_LIMIT_UPGRADE_THRESHOLD", "RATE_LIMIT_SWEEP_INTERVAL_MS"
  ]

def environment : IO Settings.Environment :=
  settingNames.filterMapM fun name => do
    return (← IO.getEnv name).map fun value => (Text.ofString name, Text.ofString value)

/-- The text of a version-four identifier over sixteen bytes. -/
def identifierOf (bs : Bytes) : Text :=
  let marked := bs.zipIdx.map fun (b, i) =>
    if i = 6 then b &&& 0x0F ||| 0x40 else if i = 8 then b &&& 0x3F ||| 0x80 else b
  let piece (start count : Nat) := Hex.encode ((marked.drop start).take count)
  Text.join [.scalar '-'] [piece 0 4, piece 4 2, piece 6 2, piece 8 2, piece 10 6]

def randomBytes (n : USize) : IO Bytes := do
  return (← IO.getRandomBytes n).toList

/-- A mint for one issuer, from fresh random bytes. -/
def freshMint : IO Mint := do
  let key ← randomBytes 24
  let publicKey ← randomBytes 16
  let identifier ← randomBytes 16
  return { source := ⟨fun _ => key, fun _ => publicKey, fun _ => identifierOf identifier⟩ }

def now : IO Calendar.Instant := do
  let t ← Std.Time.Timestamp.now
  return Calendar.ofMilliseconds t.toMillisecondsSinceUnixEpoch.val

def readFile (path : String) : IO Issuer.File := do
  let content ←
    try
      let bytes ← IO.FS.readBinFile path
      pure (some (.ofBytes bytes.toList))
    catch
      | .noFileOrDirectory .. => pure none
      | e => throw e
  return ⟨Text.ofString path, content⟩

/-- Creates the directories above a file. -/
def makeRoom (path : String) : IO Unit := do
  let above := "/".intercalate (path.splitOn "/").dropLast
  unless above.isEmpty do IO.FS.createDirAll above

/-- Replaces a file in one step. -/
def writeFile (path : String) (f : Issuer.File) : IO Unit := do
  match f.content with
  | none => return
  | some c =>
    makeRoom path
    let draft := path ++ ".tmp"
    IO.FS.writeBinFile draft ⟨c.bytes.toArray⟩
    IO.FS.rename draft path

def complain (t : Text) : IO UInt32 := do
  IO.eprintln ((t.toString?).getD "")
  return 1

def seedFile (path : String) (args : List Text) : IO UInt32 := do
  let file ← readFile path
  let x := Seed.run (.file file) (← freshMint) (← now) args
  match x.state.1, x.answer with
  | .file written, .ok report =>
    writeFile path written
    IO.print ((report.toString?).getD "")
    return 0
  | _, .ok _ => return 1
  | _, .error f => complain f.message

def run (args : List String) : IO UInt32 := do
  match Settings.ofEnvironment (← environment) with
  | .error errors =>
    complain (Text.join ", " (errors.map fun e => e.field ++ Text.ofString ": " ++ e.fault.name))
  | .ok settings =>
    if settings.engine?.isSome then complain "this command seeds files only"
    else
      match settings.storePath.toString? with
      | some path => seedFile path (args.map Text.ofString)
      | none => return 1

end IssuerGate.Command

def main (args : List String) : IO UInt32 := IssuerGate.Command.run args
