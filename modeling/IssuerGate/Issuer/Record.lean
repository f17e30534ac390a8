import IssuerGate.Issuer.Mint
import IssuerGate.Json.Nesting
import IssuerGate.Json.Reader
import IssuerGate.Json.Writer
import IssuerGate.Tier

/-!
Issuer records, and their form as a JSON object.

A record may have come from a file that others wrote, so all fields but the tier and the active flag
are JSON values of any type.
-/

namespace IssuerGate.Issuer

/-- An issuer as it is kept. -/
structure Record where
  id : Json
  name : Json
  publicKey : Json
  tier : Tier
  active : Bool
  keyHash : Json
  description : Json
  website : Json
  contactEmail : Json
  createdAt : Json
deriving Repr

/-- What is asked of a store that creates an issuer. -/
structure Draft where
  name : Option Text
  tier : Tier := .free
  publicKey : Option Text := none
  description : Option Text := none
  website : Option Text := none
  contactEmail : Option Text := none
deriving Repr

/-- What is asked of a store that changes an issuer; what is not given stays. -/
structure Change where
  tier : Option Tier := none
  active : Option Bool := none
deriving DecidableEq, Repr

def ofText? : Option Text → Json
  | some t => .str t
  | none => .null

namespace Record

/-- The record of a new issuer. -/
def ofDraft (d : Draft) (issued : Mint.Issued) (createdAt : Text) : Record where
  id := .str issued.id
  name := ofText? d.name
  publicKey := .str issued.publicKey
  tier := d.tier
  active := true
  keyHash := .str (ApiKey.digest issued.apiKey)
  description := ofText? d.description
  website := ofText? d.website
  contactEmail := ofText? d.contactEmail
  createdAt := .str createdAt

/-- The record after a change. -/
def apply (c : Change) (r : Record) : Record :=
  { r with tier := c.tier.getD r.tier, active := c.active.getD r.active }

/-- The members of a record, in the order in which they are written. -/
def members (r : Record) : List (Text × Json) :=
  [
    ("id", r.id), ("name", r.name), ("public_key", r.publicKey), ("tier", .str r.tier.name),
    ("is_active", .bool r.active), ("api_key_hash", r.keyHash), ("description", r.description),
    ("website", r.website), ("contact_email", r.contactEmail), ("created_at", r.createdAt)
  ]

/-- The record in an object that has an id, a name and a public key. Other values hold none. -/
def ofJson? (createdAt : Text) : Json → Option Record
  | .obj ms => do
    let id ← Json.lookup "id" ms
    let name ← Json.lookup "name" ms
    let publicKey ← Json.lookup "public_key" ms
    let field (k : String) : Json := (Json.lookup k ms).getD .null
    return {
      id := id
      name := name
      publicKey := publicKey
      tier := .ofStored (field "tier")
      active := ((Json.lookup "is_active" ms).getD (.bool true)).isTruthy
      keyHash := field "api_key_hash"
      description := field "description"
      website := field "website"
      contactEmail := field "contact_email"
      createdAt := (Json.lookup "created_at" ms).getD (.str createdAt) }
  | _ => none

def hasId (id : Text) (r : Record) : Bool := r.id.isText id

/-- Does the record belong to an active issuer whose key has this hash? -/
def opensWith (keyHash : Text) (r : Record) : Bool := r.active && r.keyHash.isText keyHash

/-- The line of a record in a file. -/
def line (r : Record) : Text := (Json.obj r.members).write ++ [.scalar '\n']

/-- Where one of the fields overruns its room, if one does. -/
def overrun? (room : Nat) (r : Record) : Option Json.Overrun :=
  r.members.findSome? fun (_, v) => v.overrun? room

/-- Why a record is not written. -/
inductive WriteFault where
  | unencodable
  | tooDeep (o : Json.Overrun)
deriving DecidableEq, Repr

/-- What is said of a fault; a text that cannot be coded needs no words. -/
def WriteFault.message : WriteFault → Text
  | unencodable => []
  | tooDeep .any => "maximum recursion depth exceeded"
  | tooDeep .simple => "maximum recursion depth exceeded while calling a Python object"

/-- The line of a record, if it can be written with room for what is nested in its fields. -/
def lineChars (room : Nat) (r : Record) : Except WriteFault (List Char) :=
  match r.overrun? room with
  | some o => .error (.tooDeep o)
  | none =>
    match r.line.chars? with
    | some cs => .ok cs
    | none => .error .unencodable

end Record

/-- Changes the first record with an id. -/
def changeFirst (id : Text) (c : Change) : List Record → List Record
  | [] => []
  | r :: rest => if r.hasId id then r.apply c :: rest else r :: changeFirst id c rest

end IssuerGate.Issuer
