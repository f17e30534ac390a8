import IssuerGate.Http.Cors
import IssuerGate.Http.Credentials
import IssuerGate.Http.Payload
import IssuerGate.Http.Route
import IssuerGate.Settings

/-!
The application: how a request is answered.

A request first has to meet a route and to bring a readable body. Then the gate charges the caller,
once for each request and before anything else can refuse it; then come the admin's credentials, the
checks of the body and the route's own work. Whatever the answer, it shows the quota that was
charged, unless the answer is a crash.
-/

namespace IssuerGate.Http

/-- What runs while the application is started. -/
structure Service where
  gate : Gate
  dispatcher : Dispatcher Backend

/-- The application over its store. It has a service only while it is started. -/
structure App where
  settings : Settings
  store : Issuer.Store
  mint : Mint
  service : Option Service

namespace App

/-- The service that the settings describe, from a moment on. -/
def serviceOf (s : Settings) (now : Int) : Service where
  gate :=
    { directory := s.directory now
      limiter := .start s.quota none now
      failOpen := s.lookupFailOpen }
  dispatcher := .start s.jobBackend.state 1000 true

/-- Why a request that passed the gate is not answered as asked. -/
inductive Failure where
  | refused (r : Refusal)
  | invalid (issues : List Issue)
  | crashed (c : Crash)

/-- The answer of a route: a status with a body, or a failure. -/
abbrev Answer := Except Failure (Nat × Json)

/-- The issues of a request as an error reports them. -/
def invalidDetail (issues : List Issue) : Json :=
  .arr (issues.map fun i =>
    .obj [("type", .str i.fault.name), ("loc", .arr (i.location.map .str))])

def Failure.response : Failure → Response
  | refused r => .ofRefusal r
  | invalid issues => .detail 422 (invalidDetail issues)
  | crashed c => .ofCrash c

/-- The failure over issues: the answer is to repeat what was given, which may crash it. -/
def rejected (issues : List Issue) : Failure :=
  match echoFault? issues with
  | some f => .crashed (.echo f)
  | none => .invalid issues

def isText : Json → Bool
  | .str _ => true
  | _ => false

def isTextOrNull : Json → Bool
  | .str _ | .null => true
  | _ => false

/-- Can a text be sent? Other values that an answer shows can. -/
def isSendable : Json → Bool
  | .str t => t.isEncodable
  | _ => true

/-- The room for what is nested in a field that is shown. -/
def showRoom : Nat := 970

/-- The public view of a record; one whose fields are not all texts has none. -/
def item (r : Issuer.Record) : Except Crash (List (Text × Json)) :=
  if (r.overrun? showRoom).isSome then .error .nestedRecord
  else if [r.id, r.name, r.publicKey, r.createdAt].all isText
      && [r.description, r.website, r.contactEmail].all isTextOrNull then
    .ok
      [
        ("id", r.id), ("name", r.name), ("public_key", r.publicKey), ("tier", .str r.tier.name),
        ("is_active", .bool r.active), ("description", r.description), ("website", r.website),
        ("contact_email", r.contactEmail), ("created_at", r.createdAt)
      ]
  else .error .badRecord

/-- An answer that shows some values, if they can be sent. -/
def send (shown : List Json) (answer : Nat × Json) : Answer :=
  if shown.all isSendable then .ok answer else .error (.crashed .unsendable)

/-- An answer that shows one record, and further members. -/
def showItem (status : Nat) (r : Issuer.Record) (further : List (Text × Json)) : Answer :=
  match item r with
  | .ok ms => send (ms.map (·.2)) (status, .obj (ms ++ further))
  | .error c => .error (.crashed c)

/-- The issuer of a metered request. -/
def requireIssuer (issuer : Option Identity) : Except Failure Identity :=
  match issuer with
  | some i => .ok i
  | none => .error (.refused (.ofString 401 "Missing API key"))

/-- Lets only the admin pass. -/
def requireAdmin (s : Settings) (r : Request) : Except Failure Unit := do
  let credentials ← r.credentials?.mapError .refused
  match s.admin.authenticate credentials with
  | .ok _ => .ok ()
  | .error d =>
    match d.refusal with
    | .ok refusal => .error (.refused refusal)
    | .error f => .error (.crashed (.admin f))

def usageItem (u : Limiter.UsageRow) : Json :=
  .obj
    [
      ("issuer_id", u.issuer), ("route", .str u.route), ("tier", .str u.tier.name),
      ("count", .int u.count), ("limit", .int u.limit), ("reset_at", .int u.resetAt)
    ]

/-- A usage report over some rows. -/
def usageReport (window : Int) (rows : List Limiter.UsageRow) : Answer :=
  if rows.all fun u => isText u.issuer then
    send (rows.map (·.issuer))
      (200, .obj [("window_ms", .int window), ("data", .arr (rows.map usageItem))])
  else .error (.crashed .badRecord)

/-- Who the caller is. -/
def identity (issuer : Option Identity) : Answer := do
  let i ← requireIssuer issuer
  if isText i.id then send [i.id] (200, .obj [("id", i.id), ("tier", .str i.tier.name)])
  else .error (.crashed .badRecord)

/-- The caller's own usage. -/
def ownUsage (l : Limiter) (now : Int) (param : Text) (issuer : Option Identity) : Answer := do
  let i ← requireIssuer issuer
  if i.id.isText param then usageReport l.window ((l.usage now).filter (·.issuer.isText param))
  else .error (.refused (.ofString 403 "Cannot read another issuer's usage"))

/-- Everyone's usage, for the admin. -/
def usage (s : Settings) (l : Limiter) (now : Int) (r : Request) : Answer := do
  requireAdmin s r
  usageReport l.window (l.usage now)

/-- A step of the store on behalf of the admin, after the body was checked. -/
def createIssuer (app : App) (now : Int) (r : Request) (p : Payload) : Step App Answer :=
  match requireAdmin app.settings r with
  | .error f => ⟨app, [], .error f⟩
  | .ok _ =>
    match p.draft with
    | .error issues => ⟨app, [], .error (rejected issues)⟩
    | .ok draft =>
      let x := app.store.create app.mint (Calendar.ofMilliseconds now) draft
      ⟨{ app with store := x.state.1, mint := x.state.2 }, x.log,
        match x.answer with
        | .error f => .error (.crashed (.store f))
        -- the key is shown this once
        | .ok (record, key) => showItem 201 record [("api_key", .str key)]⟩

/-- All issuers, for the admin. -/
def listIssuers (app : App) (now : Int) (r : Request) : Step App Answer :=
  match requireAdmin app.settings r with
  | .error f => ⟨app, [], .error f⟩
  | .ok _ =>
    let (log, rs) := app.store.list (Calendar.ofMilliseconds now)
    ⟨app, log,
      match rs with
      | .error f => .error (.crashed (.store f))
      | .ok rs =>
        match rs.mapM item with
        | .ok items => send (items.flatten.map (·.2)) (200, .arr (items.map .obj))
        | .error c => .error (.crashed c)⟩

/-- A change of one issuer's tier or active flag on behalf of the admin. -/
def updateIssuer (app : App) (now : Int) (r : Request) (param : Text) (p : Payload) :
    Step App Answer :=
  match requireAdmin app.settings r with
  | .error f => ⟨app, [], .error f⟩
  | .ok _ =>
    match p.change with
    | .error issues => ⟨app, [], .error (rejected issues)⟩
    | .ok change =>
      let x := app.store.update (Calendar.ofMilliseconds now) param change
      ⟨{ app with store := x.state }, x.log,
        match x.answer with
        | .error f => .error (.crashed (.store f))
        | .ok none => .error (.refused (.ofString 404 "Issuer not found"))
        | .ok (some record) => showItem 200 record []⟩

/-- The work of a route on behalf of a request that passed the gate. -/
def perform (app : App) (l : Limiter) (now : Int) (route : Route) (param : Text) (r : Request)
    (p : Payload) (issuer : Option Identity) : Step App Answer :=
  match route with
  | .health => ⟨app, [], .ok (200, .obj [("status", .ofString "ok")])⟩
  | .identity => ⟨app, [], identity issuer⟩
  | .ownUsage => ⟨app, [], ownUsage l now param issuer⟩
  | .usage => ⟨app, [], usage app.settings l now r⟩
  | .createIssuer => app.createIssuer now r p
  | .listIssuers => app.listIssuers now r
  | .updateIssuer => app.updateIssuer now r param p

/-- The response to an answer, with the quota that was charged. -/
def respond (answer : Answer) (quota : Option QuotaHeaders) : Response :=
  let shown := (quota.map (·.pairs)).getD []
  match answer with
  | .ok (status, v) => (Response.json status v).withHeaders shown
  | .error (.crashed c) => .ofCrash c
  | .error f => f.response.withHeaders shown

/-- The response to a request that the gate denied. -/
def denied (d : Gate.Denial) : Response :=
  match d with
  | .fault f => .ofCrash (.gate f)
  | d =>
    match d.refusal? with
    | some r => .ofRefusal r
    | none => .ofCrash .notStarted

/-- Takes a request with a readable body through the gate and to its route. -/
def serve (app : App) (now : Int) (route : Route) (param : Text) (r : Request) (p : Payload) :
    Step App Response :=
  match app.service with
  | none => ⟨app, [], .ofCrash .notStarted⟩
  | some s =>
    let check := s.gate.check s.dispatcher now
      (app.store.lookup (Calendar.ofMilliseconds now)) (r.header? "x-api-key") route.template
    -- the charge stands, whatever the route answers
    let app := { app with service := some ⟨check.gate, check.receiver⟩ }
    match check.outcome with
    | .error d => ⟨app, check.log, denied d⟩
    | .ok admission =>
      let x := app.perform check.gate.limiter now route param r p admission.issuer
      ⟨x.state, check.log ++ x.log, respond x.answer admission.headers⟩

/-- The response to a body that is not read. -/
def unreadable : PayloadFault → Response
  | .malformed => .detail 422 (invalidDetail [⟨.malformed, ["body"], .absent⟩])
  | .unreadable => .detail 400 (.ofString "There was an error parsing the body")

/-- Answers a request that is no preflight. -/
def dispatch (app : App) (now : Int) (r : Request) : Step App Response :=
  match Route.find r.method r.path r.query with
  | .nowhere => ⟨app, [], .detail 404 (.ofString "Not Found")⟩
  | .wrongMethod allowed =>
    ⟨app, [], (Response.detail 405 (.ofString "Method Not Allowed")).withHeaders
      [("allow", allowed)]⟩
  | .moved location =>
    ⟨app, [], { status := 307, headers := [("location", location)], body := .text [] }⟩
  | .route route param =>
    -- a body that is not read is refused before the gate, and costs nothing
    match if route.takesBody then Payload.read r else .ok .absent with
    | .error f => ⟨app, [], unreadable f⟩
    | .ok p => app.serve now route param r p

/-- Answers a request. -/
def handle (app : App) (now : Int) (r : Request) : Step App Response :=
  match Cors.preflight? r with
  | some response => ⟨app, [], response⟩
  | none =>
    let x := app.dispatch now r
    match x.answer.crash with
    | some _ => x
    | none => { x with answer := x.answer.withHeaders (Cors.headers r) }

end App

end IssuerGate.Http
