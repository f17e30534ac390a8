import IssuerGate.Directory
import IssuerGate.Issuer.Rewriting
import IssuerGate.Issuer.Table

/-!
The durable store of issuers, which is a file or a table, and the operations that both have.

A failed operation leaves the store as it was. What was drawn for an issuer that could not be
created stays drawn.
-/

namespace IssuerGate.Issuer

/-- Where issuers are kept; a database may lack the table. -/
inductive Store where
  | file (f : File)
  | table (t : Option Table)
deriving Repr

/-- Why an operation fails. -/
inductive Store.Fault where
  | undecodable
  | tooDeep (opening : CodePoint)
  | unwritable (f : Record.WriteFault)
  | table (f : TableFault)
deriving DecidableEq, Repr

namespace Store

/-- What is said of a fault; a text that cannot be coded needs no words. -/
def Fault.message : Fault → Text
  | undecodable => []
  | tooDeep c =>
    List.flatten
      [("maximum recursion depth exceeded while decoding a JSON " : Text),
        if c = .scalar '[' then "array" else "object", " from a unicode string"]
  | unwritable f => f.message
  | table f => f.message

/-- What an operation gives. -/
abbrev Answer (α : Type) := Except Fault α

def Fault.ofFile : File.Fault → Fault
  | .undecodable => undecodable
  | .tooDeep c => tooDeep c

/-- The rows, for a statement whose texts can be coded or not. That there is no table is met first,
and constraints after both. -/
def rows (coded : Bool) : Option Table → Answer Table
  | none => .error (.table .noTable)
  | some t => if coded then .ok t else .error (.unwritable .unencodable)

/-- All records: of a file in its order, of a table by time of creation. -/
def list (s : Store) (now : Calendar.Instant) : Log × Answer (List Record) :=
  match s with
  | file f =>
    let (log, rs) := f.records .all now
    (log, rs.mapError Fault.ofFile)
  | table t => ([], (rows true t).map fun t => t.sorted.map Row.record)

/-- The first record with an id. -/
def get (s : Store) (now : Calendar.Instant) (id : Text) : Log × Answer (Option Record) :=
  match s with
  | file f =>
    let (log, rs) := f.records .all now
    (log, (rs.mapError Fault.ofFile).map fun rs => rs.find? (·.hasId id))
  | table t => ([], (rows id.isEncodable t).map fun t => (t.get? id).map Row.record)

/-- The first active record whose key has a hash. -/
def findActive (s : Store) (now : Calendar.Instant) (keyHash : Text) :
    Log × Answer (Option Record) :=
  match s with
  | file f =>
    let (log, rs) := f.records .search now
    (log, (rs.mapError Fault.ofFile).map fun rs => rs.find? (·.opensWith keyHash))
  | table t =>
    ([], (rows keyHash.isEncodable t).map fun t => (t.findActive? keyHash).map Row.record)

/-- Adds a record to a file. -/
def appendToFile (f : File) (now : Calendar.Instant) (r : Record) : Step File (Answer Unit) :=
  let (log, rs) := f.records .add now
  match rs with
  | .error e => ⟨f, log, .error (.ofFile e)⟩
  | .ok rs =>
    let (f, outcome) := f.rewrite .add (rs ++ [r])
    ⟨f, log, outcome.mapError .unwritable⟩

/-- Creates an issuer and hands out its API key. -/
def create (s : Store) (m : Mint) (now : Calendar.Instant) (d : Draft) :
    Step (Store × Mint) (Answer (Record × Text)) :=
  let (m, issued) := m.issue d.publicKey
  match s with
  | file f =>
    let r := Record.ofDraft d issued (Calendar.textUtc now)
    let x := appendToFile f now r
    ⟨(file x.state, m), x.log, x.answer.map fun _ => (r, issued.apiKey)⟩
  | table t =>
    let e := Table.entry d issued
    match rows e.isEncodable t with
    | .error e => ⟨(s, m), [], .error e⟩
    | .ok t =>
      match t.insert now e with
      | .error f => ⟨(s, m), [], .error (.table f)⟩
      | .ok (t, r) => ⟨(table (some t), m), [], .ok (r.record, issued.apiKey)⟩

/-- Changes the first record with an id; the answer is the record as it is then, if there is one. A
file is written anew even if the change changes nothing. -/
def update (s : Store) (now : Calendar.Instant) (id : Text) (c : Change) :
    Step Store (Answer (Option Record)) :=
  match s with
  | file f =>
    let (log, rs) := f.records .change now
    match rs with
    | .error e => ⟨s, log, .error (.ofFile e)⟩
    | .ok rs =>
      match rs.find? (·.hasId id) with
      | none => ⟨s, log, .ok none⟩
      | some r =>
        let (f, outcome) := f.rewrite .change (changeFirst id c rs)
        ⟨file f, log, (outcome.mapError .unwritable).map fun _ => some (r.apply c)⟩
  | table t =>
    match rows id.isEncodable t with
    | .error e => ⟨s, [], .error e⟩
    | .ok t =>
      ⟨table (some (t.change id c)), [], .ok ((t.get? id).map fun r => (r.apply c).record)⟩

/-- Answers the directory's lookups. -/
def lookup (s : Store) (now : Calendar.Instant) (keyHash : Text) : Lookup :=
  let (log, found) := s.findActive now keyHash
  { log := log
    finding :=
      match found with
      | .error e => .error (.failed e.message)
      | .ok r => .ok (r.map fun r => ⟨r.id, .str r.tier.name⟩) }

end Store

end IssuerGate.Issuer
