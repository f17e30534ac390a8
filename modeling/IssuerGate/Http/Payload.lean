import IssuerGate.Field
import IssuerGate.Http.Message
import IssuerGate.Json.Nesting
import IssuerGate.Text.Encoding

/-!
What a request says in its body, and how it is checked.

Only a body declared as JSON is read as JSON. Checking goes through the fields in order and reports
all that is wrong, each time with what was given; so what cannot be repeated cannot be reported.
-/

namespace IssuerGate.Http

/-- A body: none, a JSON value, or bytes that are not declared as JSON. -/
inductive Payload where
  | absent
  | json (v : Json)
  | undeclared (bytes : Bytes)
deriving Repr

/-- Why a body declared as JSON is not read. -/
inductive PayloadFault where
  | malformed
  | unreadable
deriving DecidableEq, Repr

/-- One thing that is wrong with a body, where, and what was given there. -/
structure Issue where
  fault : Field.Fault
  location : List Text
  given : Payload
deriving Repr

/-- Why what was given cannot be repeated in a report. -/
def echoFault? (issues : List Issue) : Option EchoFault :=
  let given := issues.map (·.given)
  let values := given.filterMap fun
    | .json v => some v
    | _ => none
  let isText : Payload → Bool
    | .undeclared bs => (Utf8.chars? bs).isSome
    | _ => true
  if !given.all isText then some .undecodable
  else if !values.all Json.isFinite then some .notFinite
  else if !values.all Json.isEncodable then some .unencodable
  else none

namespace Payload

/-- Is this the media type of JSON, or of a format based on JSON? -/
def isJsonType (contentType : Text) : Bool :=
  let type := ((contentType.splitOn (.scalar ';')).headD []).strip.asciiLower
  match type.splitOn (.scalar '/') with
  | [main, sub] =>
    main == Text.ofString "application"
      && (sub == Text.ofString "json"
        || sub.drop (sub.length - 5) == Text.ofString "+json")
  | _ => false

/-- The nesting that the reader of bodies bears. -/
def maxDepth : Nat := 970

/-- Reads the body of a request. The value null is no body. -/
def read (r : Request) : Except PayloadFault Payload :=
  if r.body.isEmpty then .ok .absent
  else if !isJsonType ((r.header? "content-type").getD []) then .ok (.undeclared r.body)
  else
    match Encoding.detect? r.body with
    | none => .error .unreadable
    | some t =>
      match Json.read maxDepth t with
      -- null says as little as no body
      | .ok .null => .ok .absent
      | .ok v => .ok (.json v)
      | .error .malformed => .error .malformed
      | .error _ => .error .unreadable

/-- The members of a body that is an object. -/
def members (p : Payload) : Except (List Issue) (List (Text × Json)) :=
  match p with
  | absent => .error [⟨.missing, ["body"], p⟩]
  | json (.obj ms) => .ok ms
  | json _ | undeclared _ => .error [⟨.noMembers, ["body"], p⟩]

/-- Checks a member of the body, or takes the default if it is not there. What was given in place of
a missing member is all members. -/
def field {α : Type} (ms : List (Text × Json)) (name : Text) (default : Field.Checked α)
    (check : Json → Field.Checked α) : Field.Checked α × List Issue :=
  let (given, r) :=
    match Json.lookup name ms with
    | none => (Json.obj ms, default)
    | some v => (v, check v)
  match r with
  | .ok a => (.ok a, [])
  | .error fault => (.error fault, [⟨fault, ["body", name], json given⟩])

/-- A text of one to two hundred characters, none of them a surrogate. -/
def name (v : Json) : Field.Checked Text := do
  let t ← Field.text v
  if !t.isEncodable then .error .surrogate
  else if t.length < 1 then .error .tooShort
  else if 200 < t.length then .error .tooLong
  else .ok t

def tier : Json → Field.Checked Tier
  | .str t =>
    match Tier.ofName? t with
    | some t => .ok t
    | none => .error .noChoice
  | _ => .error .noChoice

/-- The value of a checked field of which nothing is wrong. -/
def valueD {α : Type} (c : Field.Checked α) (a : α) : α :=
  match c with
  | .ok b => b
  | .error _ => a

/-- The issuer that a body asks to create. -/
def draft (p : Payload) : Except (List Issue) Issuer.Draft := do
  let ms ← p.members
  let name := field ms "name" (.error .missing) name
  let tier := field ms "tier" (.ok .free) tier
  let optional (k : Text) := field ms k (.ok none) (Field.nullable Field.text)
  let publicKey := optional "public_key"
  let description := optional "description"
  let website := optional "website"
  let contactEmail := optional "contact_email"
  let issues :=
    name.2 ++ tier.2 ++ publicKey.2 ++ description.2 ++ website.2 ++ contactEmail.2
  if issues.isEmpty then
    .ok ⟨name.1.toOption, valueD tier.1 .free, valueD publicKey.1 none,
      valueD description.1 none, valueD website.1 none, valueD contactEmail.1 none⟩
  else .error issues

/-- The change that a body asks for. -/
def change (p : Payload) : Except (List Issue) Issuer.Change := do
  let ms ← p.members
  let tier := field ms "tier" (.ok none) (Field.nullable tier)
  let active := field ms "is_active" (.ok none) (Field.nullable Field.flag)
  let issues := tier.2 ++ active.2
  if issues.isEmpty then .ok ⟨valueD tier.1 none, valueD active.1 none⟩ else .error issues

end Payload

end IssuerGate.Http
