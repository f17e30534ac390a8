import IssuerGate.Calendar
import IssuerGate.Issuer.Record

/-!
Issuers in a table: every row keeps the constraints that the columns declare.
-/

namespace IssuerGate.Issuer

/-- A row holds texts only. -/
structure Row where
  id : Text
  name : Text
  publicKey : Text
  description : Option Text
  active : Bool
  website : Option Text
  contactEmail : Option Text
  tier : Text
  keyHash : Option Text
  createdAt : Calendar.Instant
deriving DecidableEq, Repr

/-- The rows, in the order in which they came. -/
abbrev Table := List Row

/-- Values for a new row, each of which may be null. The active flag, the tier and the time of
creation have defaults, for which null stands. -/
structure Entry where
  id : Option Text
  name : Option Text
  publicKey : Option Text
  description : Option Text := none
  active : Option Bool := none
  website : Option Text := none
  contactEmail : Option Text := none
  tier : Option Text := none
  keyHash : Option Text := none
  createdAt : Option Calendar.Instant := none
deriving Repr

/-- The columns that a constraint can name. -/
inductive Column where
  | id
  | name
  | publicKey
  | keyHash
deriving DecidableEq, Repr

def Column.label : Column → Text
  | id => "id"
  | name => "name"
  | publicKey => "public_key"
  | keyHash => "api_key_hash"

/-- Why a table cannot do what it is asked. -/
inductive TableFault where
  | noTable
  | null (c : Column)
  | duplicate (c : Column)
deriving DecidableEq, Repr

def TableFault.message : TableFault → Text
  | noTable => "no such table: issuers"
  | null c => Text.ofString "NOT NULL constraint failed: issuers." ++ c.label
  | duplicate c => Text.ofString "UNIQUE constraint failed: issuers." ++ c.label

/-- Can the texts of the entry be stored? -/
def Entry.isEncodable (e : Entry) : Bool :=
  [e.id, e.name, e.publicKey, e.description, e.website, e.contactEmail, e.tier, e.keyHash].all
    fun t => (t.map Text.isEncodable).getD true

/-- A value that must not be null. -/
def required {α : Type} (c : Column) : Option α → Except TableFault α
  | some a => .ok a
  | none => .error (.null c)

/-- The row that an entry without forbidden nulls makes at a moment. The table keeps whole seconds
of its own clock. -/
def Entry.row (e : Entry) (now : Calendar.Instant) : Except TableFault Row := do
  let id ← required .id e.id
  let name ← required .name e.name
  let publicKey ← required .publicKey e.publicKey
  return {
    id := id
    name := name
    publicKey := publicKey
    description := e.description
    active := e.active.getD true
    website := e.website
    contactEmail := e.contactEmail
    tier := e.tier.getD Tier.free.name
    keyHash := e.keyHash
    createdAt := e.createdAt.getD (Calendar.wholeSecond now) }

namespace Row

/-- The record of a row. -/
def record (r : Row) : Record where
  id := .str r.id
  name := .str r.name
  publicKey := .str r.publicKey
  tier := .ofStored (.str r.tier)
  active := r.active
  keyHash := ofText? r.keyHash
  description := ofText? r.description
  website := ofText? r.website
  contactEmail := ofText? r.contactEmail
  createdAt := .str (Calendar.text r.createdAt)

def apply (c : Change) (r : Row) : Row :=
  { r with
    tier := (c.tier.map Tier.name).getD r.tier
    active := c.active.getD r.active }

/-- Earlier rows first, and rows of one instant by their id. -/
def before (a b : Row) : Bool :=
  a.createdAt < b.createdAt || (a.createdAt == b.createdAt && a.id.le b.id)

end Row

namespace Table

/-- The constraint that a new row would break: key hashes are looked at first, then public keys,
then ids. Nulls never clash. -/
def clash? (t : Table) (r : Row) : Option Column :=
  if r.keyHash.isSome ∧ t.any (·.keyHash = r.keyHash) then some .keyHash
  else if t.any (·.publicKey = r.publicKey) then some .publicKey
  else if t.any (·.id = r.id) then some .id
  else none

/-- Adds a row and gives it too, or says which constraint forbids it. -/
def insert (t : Table) (now : Calendar.Instant) (e : Entry) : Except TableFault (Table × Row) := do
  let r ← e.row now
  match t.clash? r with
  | some c => .error (.duplicate c)
  | none => .ok (t ++ [r], r)

/-- The entry of a new issuer. -/
def entry (d : Draft) (issued : Mint.Issued) : Entry where
  id := some issued.id
  name := d.name
  publicKey := some issued.publicKey
  description := d.description
  website := d.website
  contactEmail := d.contactEmail
  tier := some d.tier.name
  keyHash := some (ApiKey.digest issued.apiKey)

def get? (t : Table) (id : Text) : Option Row := t.find? (·.id = id)

/-- The first active row with a key hash. -/
def findActive? (t : Table) (keyHash : Text) : Option Row :=
  t.find? fun r => r.active && r.keyHash = some keyHash

/-- The rows by time of creation. -/
def sorted (t : Table) : List Row := t.mergeSort Row.before

/-- Changes the row with an id. -/
def change (t : Table) (id : Text) (c : Change) : Table :=
  t.map fun r => if r.id = id then r.apply c else r

end Table

end IssuerGate.Issuer
