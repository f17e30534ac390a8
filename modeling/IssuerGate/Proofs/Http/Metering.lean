import IssuerGate.Http.App
import IssuerGate.Proofs.Directory.Resolve
import IssuerGate.Proofs.Gate.Run
import IssuerGate.Proofs.Issuer.Draft

/-!
# IssuerGate — who is charged for a request

The gate stands in front of every route, so what a request costs does not depend on what becomes of
it behind the gate. In front of the gate there are only the search for a route and, on routes that
take one, the reading of the body.

* **`service_perform`** — no route touches the service: neither the limiter nor the directory nor the
  dispatcher.
* **`charged`** — the calls that a request makes of the limiter: one consume, of the issuer that the
  key is resolved to and for the template of the route, if the request reaches the gate with such a
  key, and none otherwise.
* **`meter_step`**, **`meter_after`** — the limiter and the dispatcher go through a request, and
  through a run of requests, as through the calls that are charged, and nothing else reaches them.
* **`consume_of_request`** — so a request with a readable body and a key of an issuer is charged
  exactly once, whatever it is answered.
-/

namespace IssuerGate.Http.App

/-! ## Behind the gate -/

/-- The creation of an issuer does not touch the service. -/
theorem service_createIssuer (app : App) (now : Int) (r : Request) (p : Payload) :
    (app.createIssuer now r p).state.service = app.service := by
  unfold createIssuer
  split
  · rfl
  · split <;> rfl

/-- Nor does the listing of the issuers. -/
theorem service_listIssuers (app : App) (now : Int) (r : Request) :
    (app.listIssuers now r).state.service = app.service := by
  unfold listIssuers
  split <;> rfl

/-- Nor does a change of one: a directory finds it out only when it asks again. -/
theorem service_updateIssuer (app : App) (now : Int) (r : Request) (param : Text) (p : Payload) :
    (app.updateIssuer now r param p).state.service = app.service := by
  unfold updateIssuer
  split
  · rfl
  · split <;> rfl

/-- **No route touches the service.** -/
theorem service_perform (app : App) (l : Limiter) (now : Int) (route : Route) (param : Text)
    (r : Request) (p : Payload) (issuer : Option Identity) :
    (app.perform l now route param r p issuer).state.service = app.service := by
  cases route with
  | identity => rfl
  | ownUsage => rfl
  | usage => rfl
  | createIssuer => exact service_createIssuer app now r p
  | listIssuers => exact service_listIssuers app now r
  | updateIssuer => exact service_updateIssuer app now r param p
  | health => rfl

/-! ## At the gate -/

/-- What the store says to a lookup at a reading of the clock. -/
def find (app : App) (now : Int) : Text → Lookup := app.store.lookup (Calendar.ofMilliseconds now)

/-- The call of the gate that a request makes at the door of a route. -/
def gateCall (app : App) (now : Int) (route : Route) (r : Request) : Gate.Call :=
  ⟨now, .check (app.find now) (r.header? "x-api-key") route.template⟩

/-- A served request leaves the service as the gate left it. -/
theorem service_serve {app : App} {s : Service} (hs : app.service = some s) (now : Int)
    (route : Route) (param : Text) (r : Request) (p : Payload) :
    let after := (Gate.perform (s.gate, s.dispatcher) (app.gateCall now route r)).state
    (app.serve now route param r p).state.service = some ⟨after.1, after.2⟩ := by
  intro after
  unfold serve
  rw [hs]
  dsimp only
  split
  · rfl
  · rw [service_perform]
    rfl

/-- What a served request is answered: by the gate that denies it, or by its route. -/
theorem answer_serve {app : App} {s : Service} (hs : app.service = some s) (now : Int)
    (route : Route) (param : Text) (r : Request) (p : Payload) :
    let check := s.gate.check s.dispatcher now (app.find now) (r.header? "x-api-key") route.template
    (app.serve now route param r p).answer
      = match check.outcome with
        | .error d => denied d
        | .ok admission =>
          respond (App.perform { app with service := some ⟨check.gate, check.receiver⟩ }
            check.gate.limiter now route param r p admission.issuer).answer admission.headers := by
  intro check
  unfold serve
  rw [hs]
  dsimp only
  show Step.answer (match check.outcome with
    | .error d => _
    | .ok admission => _) = _
  -- only the case is left to see: both sides go on in the same way
  cases check.outcome with
  | error d => rfl
  | ok admission => rfl

/-! ## In front of the gate -/

/-- The body of a request, where the route takes one. -/
def payload (route : Route) (r : Request) : Except PayloadFault Payload :=
  if route.takesBody then Payload.read r else .ok .absent

/-- A route that was found has the method of the request and matches its path. -/
theorem found_of_find {method path query : Text} {route : Route} {param : Text}
    (h : Route.find method path query = .route route param) :
    route.method = method ∧ route.param? path = some param := by
  unfold Route.find at h
  -- by method and path; other paths that match leave a wrong method, a redirect or nothing
  split at h
  · next found hfound =>
    cases h
    obtain ⟨candidate, -, hcandidate⟩ := List.exists_of_findSome?_eq_some hfound
    split at hcandidate
    · next hmethod =>
      obtain ⟨value, hvalue, hpair⟩ := Option.map_eq_some_iff.mp hcandidate
      cases hpair
      exact ⟨hmethod, hvalue⟩
    · cases hcandidate
  · split at h
    · cases h
    · dsimp only at h
      split at h <;> cases h

/-- A request that meets a route is no preflight, as no route takes that method. -/
theorem preflight?_eq_none {r : Request} {route : Route} {param : Text}
    (h : Route.find r.method r.path r.query = .route route param) : Cors.preflight? r = none := by
  have hmethod : r.method ≠ "OPTIONS" := by
    rw [← (found_of_find h).1]
    cases route <;> decide
  unfold Cors.preflight?
  split
  · rw [if_neg hmethod]
  · rfl

/-- A request with a readable body is served. -/
theorem dispatch_of_readable {app : App} {now : Int} {r : Request} {route : Route} {param : Text}
    (hroute : Route.find r.method r.path r.query = .route route param) {p : Payload}
    (hbody : payload route r = .ok p) :
    app.dispatch now r = app.serve now route param r p := by
  unfold payload at hbody
  unfold dispatch
  rw [hroute]
  dsimp only
  rw [hbody]

/-- What a request with a readable body leaves is what serving it leaves. -/
theorem state_handle_of_readable {app : App} {now : Int} {r : Request} {route : Route}
    {param : Text} (hroute : Route.find r.method r.path r.query = .route route param)
    {p : Payload} (hbody : payload route r = .ok p) :
    (app.handle now r).state = (app.serve now route param r p).state := by
  unfold handle
  rw [preflight?_eq_none hroute]
  dsimp only
  rw [dispatch_of_readable hroute hbody]
  split <;> rfl

/-- What a request with a readable body is answered is what serving it answers, and perhaps headers
for pages of other origins. -/
theorem answer_handle_of_readable (app : App) (now : Int) {r : Request} {route : Route}
    {param : Text} (hroute : Route.find r.method r.path r.query = .route route param)
    {p : Payload} (hbody : payload route r = .ok p) :
    let x := (app.serve now route param r p).answer
    (app.handle now r).answer = x
      ∨ (app.handle now r).answer = x.withHeaders (Cors.headers r) := by
  intro x
  unfold handle
  rw [preflight?_eq_none hroute]
  dsimp only
  rw [dispatch_of_readable hroute hbody]
  split
  · exact Or.inl rfl
  · exact Or.inr rfl

/-- Such headers change nothing else. -/
theorem shown_handle_of_readable (app : App) (now : Int) {r : Request} {route : Route}
    {param : Text} (hroute : Route.find r.method r.path r.query = .route route param)
    {p : Payload} (hbody : payload route r = .ok p) :
    let x := (app.serve now route param r p).answer
    (app.handle now r).answer.status = x.status ∧ (app.handle now r).answer.body = x.body
      ∧ (app.handle now r).answer.crash = x.crash := by
  intro x
  rcases answer_handle_of_readable app now hroute hbody with hanswer | hanswer
  · rw [hanswer]
    exact ⟨rfl, rfl, rfl⟩
  · rw [hanswer]
    exact ⟨rfl, rfl, rfl⟩

/-- **A body that is not read ends the request in front of the gate.** -/
theorem handle_of_unreadable (app : App) (now : Int) {r : Request} {route : Route}
    {param : Text} (hroute : Route.find r.method r.path r.query = .route route param)
    {f : PayloadFault} (hbody : payload route r = .error f) :
    (app.handle now r).state = app
      ∧ (app.handle now r).answer.status = (unreadable f).status := by
  have hdispatch : app.dispatch now r = ⟨app, [], unreadable f⟩ := by
    unfold payload at hbody
    unfold dispatch
    rw [hroute]
    dsimp only
    rw [hbody]
  unfold handle
  rw [preflight?_eq_none hroute]
  dsimp only
  rw [hdispatch]
  cases f with
  | malformed => exact ⟨rfl, rfl⟩
  | unreadable => exact ⟨rfl, rfl⟩

/-- The route at whose door a request arrives: the one that it meets, with a body that is read if
the route takes one. -/
def arrival? (r : Request) : Option Route :=
  match Route.find r.method r.path r.query with
  | .route route _ =>
    match payload route r with
    | .ok _ => some route
    | .error _ => none
  | _ => none

/-- A request that arrives has met a route, and its body was read for it. -/
theorem of_arrival? {r : Request} {route : Route} (h : arrival? r = some route) :
    ∃ param p, Route.find r.method r.path r.query = .route route param
      ∧ payload route r = .ok p := by
  unfold arrival? at h
  split at h
  · next met param hroute =>
    split at h
    · next p hbody =>
      cases h
      exact ⟨param, p, hroute, hbody⟩
    · cases h
  · cases h

/-- A request that arrives at no door changes nothing. -/
theorem state_handle_of_astray (app : App) (now : Int) {r : Request} (h : arrival? r = none) :
    (app.handle now r).state = app := by
  unfold arrival? at h
  split at h
  -- a route was met but the body not read
  · next route param hroute =>
    split at h
    · cases h
    · next f hbody => exact (handle_of_unreadable _ _ hroute hbody).1
  · next hlost =>
    have hdispatch : (app.dispatch now r).state = app := by
      unfold dispatch
      split
      · rfl
      · rfl
      · rfl
      · next route param hroute => exact absurd hroute (hlost route param)
    unfold handle
    split
    · rfl
    · dsimp only
      split <;> exact hdispatch

/-- A request that arrives leaves the service as the gate leaves it. -/
theorem service_handle_of_arrival {app : App} {s : Service} (hs : app.service = some s) (now : Int)
    {r : Request} {route : Route} (h : arrival? r = some route) :
    let after := (Gate.perform (s.gate, s.dispatcher) (app.gateCall now route r)).state
    (app.handle now r).state.service = some ⟨after.1, after.2⟩ := by
  obtain ⟨param, p, hroute, hbody⟩ := of_arrival? h
  rw [state_handle_of_readable hroute hbody]
  exact service_serve hs now route param r p

theorem service_handle_of_none {app : App} (hs : app.service = none) (now : Int) (r : Request) :
    (app.handle now r).state.service = none := by
  cases h : arrival? r with
  | none => rw [state_handle_of_astray app now h, hs]
  | some route =>
    obtain ⟨param, p, hroute, hbody⟩ := of_arrival? h
    rw [state_handle_of_readable hroute hbody]
    unfold serve
    rw [hs]
    exact hs

/-! ## Calls

Requests come at readings of the clock, and the store may be changed by others at any time. -/

inductive Action where
  | request (r : Request)
  | edit (store : Issuer.Store)

structure Call where
  now : Int
  action : Action

def start (settings : Settings) (store : Issuer.Store) (mint : Mint) (opened : Int) : App where
  settings := settings
  store := store
  mint := mint
  service := some (serviceOf settings opened)

/-- One call of an application; only requests are answered. -/
def step (app : App) (c : Call) : Step App (Option Response) :=
  match c.action with
  | .request r =>
    let x := app.handle c.now r
    ⟨x.state, x.log, some x.answer⟩
  | .edit store => ⟨{ app with store := store }, [], none⟩

/-- The limiter of an application and the dispatcher behind it, while it is started. -/
def meter (app : App) : Option (Limiter × Dispatcher Backend) :=
  app.service.map fun s => (s.gate.limiter, s.dispatcher)

/-- The calls that a call of an application makes of the limiter. -/
def charged (app : App) (c : Call) : List Limiter.Call :=
  match c.action with
  | .request r =>
    match app.service, arrival? r with
    | some s, some route => Gate.charged (s.gate, s.dispatcher) (app.gateCall c.now route r)
    | _, _ => []
  | .edit _ => []

/-- **A call reaches the limiter and the dispatcher through the charged calls alone.** -/
theorem meter_step (app : App) (c : Call) :
    (step app c).state.meter
      = app.meter.map fun m => Run.after Limiter.perform m (charged app c) := by
  obtain ⟨now, action⟩ := c
  cases action with
  | edit store =>
    show app.meter = app.meter.map id
    rw [Option.map_id_fun, id]
  | request r =>
    show (app.handle now r).state.meter = _
    unfold meter charged
    dsimp only
    -- the meter is in the gate, and only a request that arrives passes it
    cases hs : app.service with
    | none =>
      rw [service_handle_of_none hs]
      rfl
    | some s =>
      cases harrival : arrival? r with
      | none =>
        rw [state_handle_of_astray app now harrival, hs]
        rfl
      | some route =>
        rw [service_handle_of_arrival hs now harrival]
        exact congrArg some
          (Gate.meter_perform (s.gate, s.dispatcher) (app.gateCall now route r))

/-- The calls that a run of an application makes of the limiter. -/
def ledger : App → List Call → List Limiter.Call
  | _, [] => []
  | app, c :: calls => charged app c ++ ledger (step app c).state calls

/-- **The meter goes through a run of the application as through its ledger.** -/
theorem meter_after (app : App) (calls : List Call) :
    (Run.after step app calls).meter
      = app.meter.map fun m => Run.after Limiter.perform m (ledger app calls) := by
  induction calls generalizing app with
  | nil =>
    show app.meter = app.meter.map id
    rw [Option.map_id_fun, id]
  | cons c calls ih =>
    unfold ledger
    rw [Run.after_cons, ih, meter_step, Option.map_map]
    congr 1
    funext m
    exact (Run.after_append m (charged app c) (ledger (step app c).state calls)).symm

theorem isSome_service_step {app : App} (h : app.service.isSome) (c : Call) :
    (step app c).state.service.isSome := by
  have hmeter := congrArg Option.isSome (meter_step app c)
  unfold meter at hmeter
  rw [Option.isSome_map, Option.isSome_map, Option.isSome_map] at hmeter
  rw [hmeter]
  exact h

/-- An application that was started has a service at all times. -/
theorem exists_service_after (settings : Settings) (store : Issuer.Store) (mint : Mint)
    (opened : Int) (past : List Call) :
    ∃ s, (Run.after step (start settings store mint opened) past).service = some s :=
  Option.isSome_iff_exists.mp (Run.after_invariant (fun app : App => app.service.isSome)
    (fun _ c h => isSome_service_step h c) (s := start settings store mint opened) rfl past)

/-! ## Requests by their issuer -/

theorem charged_of_astray (app : App) (now : Int) {r : Request} (h : arrival? r = none) :
    charged app ⟨now, .request r⟩ = [] := by
  unfold charged
  dsimp only
  rw [h]
  cases app.service <;> rfl

/-- A request that names no issuer is not charged. -/
theorem charged_of_issuer?_none {app : App} {s : Service} (hs : app.service = some s) {now : Int}
    {r : Request} (h : s.gate.issuer? now (app.find now) (r.header? "x-api-key") = none) :
    charged app ⟨now, .request r⟩ = [] := by
  unfold charged
  dsimp only
  rw [hs]
  cases arrival? r with
  | none => rfl
  | some route =>
    unfold Gate.charged gateCall
    dsimp only
    rw [h]

/-- A request that arrives and names an issuer is charged once, to that issuer, at its tier and on
the template of its route. -/
theorem charged_of_issuer?_some {app : App} {s : Service} (hs : app.service = some s) {now : Int}
    {r : Request} {route : Route} (harrival : arrival? r = some route) {i : Identity}
    (h : s.gate.issuer? now (app.find now) (r.header? "x-api-key") = some i) :
    charged app ⟨now, .request r⟩ = [⟨now, .consume i.id i.tier route.template⟩] := by
  unfold charged
  dsimp only
  rw [hs, harrival]
  dsimp only
  unfold Gate.charged gateCall
  dsimp only
  rw [h]

/-- **What a call is charged with**: nothing, or one consume under the path of a route. -/
theorem charged_cases (app : App) (c : Call) :
    charged app c = [] ∨ ∃ (i : Identity) (route : Route),
      charged app c = [⟨c.now, .consume i.id i.tier route.template⟩] := by
  obtain ⟨now, action⟩ := c
  cases action with
  | edit store => exact Or.inl rfl
  | request r =>
    cases hs : app.service with
    | none =>
      unfold charged
      dsimp only
      rw [hs]
      exact Or.inl rfl
    | some s =>
      cases harrival : arrival? r with
      | none => exact Or.inl (charged_of_astray app now harrival)
      | some route =>
        -- no service, no arrival, no issuer: nothing is charged
        cases hissuer : s.gate.issuer? now (app.find now) (r.header? "x-api-key") with
        | none => exact Or.inl (charged_of_issuer?_none hs hissuer)
        | some i => exact Or.inr ⟨i, route, charged_of_issuer?_some hs harrival hissuer⟩

/-! ## Requests with the key of an issuer -/

/-- A request that arrives with the key of an issuer is charged to it. -/
theorem charged_of_resolved {app : App} {s : Service} (hs : app.service = some s) {now : Int}
    {r : Request} {route : Route} (harrival : arrival? r = some route) {key : Text} {i : Identity}
    (hkey : r.header? "x-api-key" = some key) (hne : key ≠ [])
    (hresolved : (s.gate.directory.resolve now (app.find now) key).answer.outcome = .ok (some i)) :
    charged app ⟨now, .request r⟩ = [⟨now, .consume i.id i.tier route.template⟩] := by
  have hissuer : s.gate.issuer? now (app.find now) (r.header? "x-api-key") = some i := by
    unfold Gate.issuer?
    rw [hkey, Option.filter_some_pos (by simpa using hne)]
    dsimp only
    rw [hresolved]
  exact charged_of_issuer?_some hs harrival hissuer

/-- **A request with the key of an issuer is charged exactly once** if the route that it meets takes
no body or its body is read, in each state that an application can reach and whatever the request is
answered: the limiter and the dispatcher are left as one consume leaves them, of that issuer and for
the template of that route. If the body is not read nothing at all is changed, and the answer says
what is wrong with the body. -/
theorem consume_of_request (settings : Settings) (store : Issuer.Store) (mint : Mint)
    (opened : Int) (past : List Call) (now : Int) (r : Request) (route : Route) (param : Text)
    (hroute : Route.find r.method r.path r.query = .route route param) :
    let app := Run.after step (start settings store mint opened) past
    ∃ s, app.service = some s ∧ ∀ key i, r.header? "x-api-key" = some key → key ≠ [] →
      (s.gate.directory.resolve now (app.find now) key).answer.outcome = .ok (some i) →
      (∀ p, payload route r = .ok p →
        (app.handle now r).state.meter
          = some (s.gate.limiter.consume s.dispatcher now i.id i.tier route.template).state)
      ∧ ∀ f, payload route r = .error f →
        (app.handle now r).state = app
          ∧ (app.handle now r).answer.status = match f with
            | .malformed => 422
            | .unreadable => 400 := by
  intro app
  have hstarted : app.service.isSome :=
    Run.after_invariant (fun a : App => a.service.isSome) (fun a c ha => isSome_service_step ha c)
      (s := start settings store mint opened) rfl past
  obtain ⟨s, hs⟩ := Option.isSome_iff_exists.mp hstarted
  refine ⟨s, hs, fun key i hkey hne hresolved => ⟨fun p hbody => ?_, fun f hbody => ?_⟩⟩
  -- the body was read, so the request arrives and its one charge is the consume
  · have harrival : arrival? r = some route := by
      unfold arrival?
      rw [hroute]
      dsimp only
      rw [hbody]
    have hmeter := meter_step app ⟨now, .request r⟩
    rw [charged_of_resolved hs harrival hkey hne hresolved] at hmeter
    have hbefore : app.meter = some (s.gate.limiter, s.dispatcher) := by
      unfold meter
      rw [hs]
      rfl
    rw [hbefore] at hmeter
    exact hmeter
  -- it was not, and the answer comes before the gate
  · obtain ⟨hstate, hstatus⟩ := handle_of_unreadable app now hroute hbody
    refine ⟨hstate, ?_⟩
    rw [hstatus]
    cases f <;> rfl

/-! ## A request to create an issuer

The store holds one issuer. Its key comes with a request to create another one, which brings no
credentials of the admin. -/

/-- A store with the issuer of the key `k`. -/
def storeOfOne : Issuer.Store :=
  .table (some
    [{ id := "a", name := "A", publicKey := "p", description := none, active := true
       website := none, contactEmail := none, tier := "free", keyHash := some (ApiKey.digest "k")
       createdAt := 0 }])

/-- A request to create an issuer, with the key `k` and a body that is declared as JSON. -/
def keyedCreation (body : Bytes) : Request where
  method := "POST"
  path := "/api/admin/issuers"
  headers := [("x-api-key", "k"), ("content-type", "application/json")]
  body := body

def appOfOne : App := start {} storeOfOne { source := .counting } 0

theorem run_appOfOne :
    Run.after step (start {} storeOfOne { source := .counting } 0) [] = appOfOne := rfl

theorem find_appOfOne (now : Int) :
    appOfOne.find now (ApiKey.digest "k") = ⟨[], .ok (some ⟨.str "a", .str "free"⟩), false⟩ := by
  unfold find appOfOne start storeOfOne
  dsimp only
  have hcoded : (ApiKey.digest "k").isEncodable = true := Hex.isEncodable_encode _
  -- which hash it is does not matter, as long as the row has it
  generalize ApiKey.digest "k" = h at hcoded ⊢
  have hopens : (true && decide (some h = some h)) = true := by
    rw [decide_eq_true rfl]
    rfl
  unfold Issuer.Store.lookup Issuer.Store.findActive Issuer.Table.findActive?
  dsimp only [Issuer.Store.rows, Except.map]
  rw [if_pos hcoded]
  dsimp only
  rw [List.find?_cons, hopens]
  rfl

/-- The directory resolves the key `k` to the only issuer there is. -/
theorem resolve_appOfOne :
    ((serviceOf {} 0).gate.directory.resolve 5 (appOfOne.find 5) "k").answer.outcome
      = .ok (some ⟨.str "a", .free⟩) := by
  have hkey : ApiKey.hash "k" = .ok (ApiKey.digest "k") :=
    ApiKey.hash_eq_ok_iff.mpr ⟨by decide, rfl⟩
  rw [Directory.answer_resolve_of_uncached rfl, Directory.ask_of_hash hkey,
    Directory.askFor_of_seconds rfl (by decide), find_appOfOne]
  rfl

/-- The request meets the route for creating an issuer, whatever its body is. -/
theorem find_keyedCreation (body : Bytes) :
    Route.find (keyedCreation body).method (keyedCreation body).path (keyedCreation body).query
      = .route .createIssuer [] := by
  show Route.find "POST" "/api/admin/issuers" [] = _
  decide +kernel

set_option maxRecDepth 4000 in
/-- An object without members is a readable body, and its opening brace alone is not. -/
theorem payload_keyedCreation :
    payload .createIssuer (keyedCreation [0x7B, 0x7D]) = .ok (.json (.obj []))
      ∧ payload .createIssuer (keyedCreation [0x7B]) = .error .malformed :=
  ⟨rfl, rfl⟩

/-- A request that the admin's door turns away has been charged at the gate. -/
theorem consume_of_request_of_unauthorized :
    let r := keyedCreation [0x7B, 0x7D]
    Route.find r.method r.path r.query = .route .createIssuer []
      ∧ payload .createIssuer r = .ok (.json (.obj []))
      ∧ (appOfOne.handle 5 r).state.meter.map
          (fun m => m.1.counters.get? (.str "a") "/api/admin/issuers")
        = some (some ⟨5, 1, .free, false⟩) := by
  intro r
  have hroute := find_keyedCreation r.body
  obtain ⟨s, hs, hcharged⟩ :=
    consume_of_request {} storeOfOne { source := .counting } 0 [] 5 r .createIssuer [] hroute
  obtain rfl : serviceOf {} 0 = s := Option.some.inj hs
  rw [run_appOfOne] at hcharged
  have hmeter := (hcharged "k" _ rfl (by decide) resolve_appOfOne).1 _ payload_keyedCreation.1
  refine ⟨hroute, payload_keyedCreation.1, ?_⟩
  rw [hmeter]
  decide

/-- **A body that is not read comes before the gate**: it is not so that each request with the key
of an issuer is charged, whatever its body is. -/
theorem not_charged_of_unreadable :
    ¬ ∀ (settings : Settings) (store : Issuer.Store) (mint : Mint) (opened : Int)
      (past : List Call) (now : Int) (r : Request) (route : Route) (param : Text),
      Route.find r.method r.path r.query = .route route param →
      let app := Run.after step (start settings store mint opened) past
      ∃ s, app.service = some s ∧ ∀ key i, r.header? "x-api-key" = some key → key ≠ [] →
        (s.gate.directory.resolve now (app.find now) key).answer.outcome = .ok (some i) →
        (app.handle now r).state.meter
          = some (s.gate.limiter.consume s.dispatcher now i.id i.tier route.template).state := by
  intro hcharged
  let r := keyedCreation [0x7B]
  have hroute := find_keyedCreation r.body
  obtain ⟨s, hs, hmeter⟩ :=
    hcharged {} storeOfOne { source := .counting } 0 [] 5 r .createIssuer [] hroute
  obtain rfl : serviceOf {} 0 = s := Option.some.inj hs
  rw [run_appOfOne] at hmeter
  have hspent := hmeter "k" _ rfl (by decide) resolve_appOfOne
  -- yet the request, its brace unclosed, left the application as it was
  have hkept : (appOfOne.handle 5 r).state = appOfOne :=
    (handle_of_unreadable appOfOne 5 hroute payload_keyedCreation.2).1
  rw [hkept] at hspent
  have hsize := congrArg (Option.map fun m => m.1.counters.size) hspent
  revert hsize
  decide

end IssuerGate.Http.App
