import IssuerGate.Database
import IssuerGate.Json.Display

/-!
Seeding: one issuer, from the arguments of a command line.
-/

namespace IssuerGate.Seed

/-- Words that start with two dashes are options. -/
def isOption (arg : Text) : Bool := arg.take 2 == Text.ofString "--"

/-- The issuer that the arguments ask for: the first word that is no option is its name. -/
def draft (args : List Text) : Issuer.Draft where
  name := some ((args.find? fun a => !isOption a).getD "Demo Issuer")
  tier := if args.contains (Text.ofString "--paid") then .paid else .free

/-- What is printed of a new issuer. -/
def report (r : Issuer.Record) (apiKey : Text) : Text :=
  List.flatten
    [
      ("Created issuer " : Text), r.id.display, " (", r.tier.name, ")\nx-api-key: ", apiKey, "\n"
    ]

/-- Seeds a store and answers what is printed. -/
def run (s : Issuer.Store) (m : Mint) (now : Calendar.Instant) (args : List Text) :
    Step (Issuer.Store × Mint) (Issuer.Store.Answer Text) :=
  let x := s.create m now (draft args)
  ⟨x.state, x.log, x.answer.map fun (r, key) => report r key⟩

/-- Seeds a database, in which a missing table is created first. -/
def runOn (db : Database) (m : Mint) (now : Calendar.Instant) (args : List Text) :
    (Database × Mint) × Issuer.Store.Answer Text :=
  let db := db.createTables
  let x := run (.table db.issuers) m now args
  match x.state with
  | (.table t, m) => (({ db with issuers := t }, m), x.answer)
  | (.file _, m) => ((db, m), x.answer)

end IssuerGate.Seed
