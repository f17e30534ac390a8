import IssuerGate.Proofs.Http.Authority

/-!
# IssuerGate — what an answer shows of the quota

Three hands put the quota on a response: the gate on its own refusals, the application on the answer
of a route, and again on what becomes of a failed one. Whichever it was, a response shows the
decision that its request was charged with, once, or it shows none.

* **`Headers.quota`** — the headers of a response that show a quota, in order.
* **`discreet_perform`** — a route's own answer says nothing of a quota, neither in its headers nor
  by its status.
* **`serve_of_uncharged`**, **`serve_of_charged`** — so what a served request is shown of its quota
  was put there by the gate: nothing without a charge, and otherwise the decision on it.
* **`quota_of_request`** — what each request is shown, in each state that an application can reach.
-/

namespace IssuerGate.Http

/-! ## The headers of a quota -/

/-- The names of the headers that show a quota, as a response has them. -/
def quotaNames : List Text :=
  ["x-ratelimit-limit", "x-ratelimit-remaining", "x-ratelimit-reset", "retry-after"]

/-- The headers that show a quota, in order. -/
def Headers.quota (hs : Headers) : Headers := hs.filter fun h => quotaNames.contains h.1

/-- How a decision is shown, each number once; a delay is named to whoever was denied. -/
def shownQuota (d : Decision) (retryAfter : Option Int) : Headers :=
  [(("x-ratelimit-limit" : Text), Text.ofInt d.limit),
    ("x-ratelimit-remaining", Text.ofInt d.remaining),
    ("x-ratelimit-reset", Text.ofInt (d.resetAt.fdiv 1000))]
    ++ (retryAfter.map fun s => (("retry-after" : Text), Text.ofInt s)).toList

theorem quota_withHeaders (r : Response) (hs : Headers) :
    (r.withHeaders hs).headers.quota
      = r.headers.quota ++ Headers.quota (hs.map fun (k, v) => (k.asciiLower, v)) :=
  List.filter_append ..

/-- The gate has the names in its own letters, a response in small ones. -/
theorem quotaNames_eq :
    quotaNames = [Text.asciiLower "X-RateLimit-Limit", Text.asciiLower "X-RateLimit-Remaining",
      Text.asciiLower "X-RateLimit-Reset", Text.asciiLower "Retry-After"] := by
  decide +kernel

/-- The headers of a decision that can be written, in the small letters of a response, are the ones
it is shown by. -/
theorem map_pairs (d : Decision) (hw : d.isWritable = true) (retryAfter : Option Int) :
    (QuotaHeaders.ofWritable d hw retryAfter).pairs.map (fun (k, v) => (k.asciiLower, v))
      = shownQuota d retryAfter := by
  have hnames := quotaNames_eq
  unfold quotaNames at hnames
  obtain ⟨hlimit, hremaining, hreset, hretry, -⟩ : _ ∧ _ ∧ _ ∧ _ ∧ _ := by
    simpa only [List.cons.injEq] using hnames
  unfold shownQuota
  rw [hlimit, hremaining, hreset, hretry]
  -- with the names alike, the lists are the same up to the delay, which is there or not
  cases retryAfter with
  | none => rfl
  | some s => rfl

/-- The headers by which a decision is shown all count as showing a quota. -/
theorem quota_shownQuota (d : Decision) (retryAfter : Option Int) :
    Headers.quota (shownQuota d retryAfter) = shownQuota d retryAfter := by
  refine List.filter_eq_self.mpr fun h hh => List.contains_iff_mem.mpr ?_
  have hname : h.1 ∈ (shownQuota d retryAfter).map (·.1) := List.mem_map_of_mem hh
  -- all four names with a delay, the first three without one
  cases retryAfter with
  | none => exact List.mem_of_mem_take (show h.1 ∈ quotaNames.take 3 from hname)
  | some s => exact hname

/-- A response that is given the headers of a decision is shown that decision and nothing beside it.
-/
theorem quota_pairs (d : Decision) (hw : d.isWritable = true) (retryAfter : Option Int) :
    Headers.quota ((QuotaHeaders.ofWritable d hw retryAfter).pairs.map
      fun (k, v) => (k.asciiLower, v)) = shownQuota d retryAfter := by
  rw [map_pairs, quota_shownQuota]

/-- What a page of another origin is allowed tells nothing of a quota. -/
theorem quota_cors (r : Request) :
    Headers.quota ((Cors.headers r).map fun (k, v) => (k.asciiLower, v)) = [] := by
  unfold Cors.headers
  split <;> rfl

theorem quota_preflight (r : Request) :
    Headers.quota ((Cors.preflightHeaders r).map fun (k, v) => (k.asciiLower, v)) = [] := by
  unfold Cors.preflightHeaders
  dsimp only
  split <;> rfl

/-- What a response tells about a decision: its numbers, and to whoever was denied when to come
back, in a header and in the body alike. -/
structure Shows (x : Response) (d : Decision) (now : Int) : Prop where
  allowed : d.allowed = true → x.status ≠ 429 ∧ x.headers.quota = shownQuota d none
  denied : d.allowed = false → x.status = 429 ∧ ∃ seconds,
    QuotaHeaders.retrySeconds? d.resetAt now = some seconds
      ∧ x.headers.quota = shownQuota d (some seconds)
      ∧ x.body = .json (.obj [("detail", .obj
          [("status_code", .int 429), ("message", .ofString "Rate limit exceeded"),
            ("retry_after_seconds", .int seconds)])])

/-- A response shows nothing of a quota. -/
def Silent (x : Response) : Prop := x.status ≠ 429 ∧ x.headers.quota = []

theorem silent_ofCrash (c : Crash) : Silent (.ofCrash c) := ⟨(by decide : 500 ≠ 429), rfl⟩

/-- A silent response stays silent under headers that show no quota. -/
theorem Silent.withHeaders {x : Response} (h : Silent x) {hs : Headers}
    (hhs : Headers.quota (hs.map fun (k, v) => (k.asciiLower, v)) = []) :
    Silent (x.withHeaders hs) := by
  refine ⟨h.1, ?_⟩
  rw [quota_withHeaders, h.2, hhs]
  rfl

/-- A response goes on showing its decision, and that one only, under headers that show no quota. -/
theorem Shows.withHeaders {x : Response} {d : Decision} {now : Int} (h : Shows x d now)
    {hs : Headers} (hhs : Headers.quota (hs.map fun (k, v) => (k.asciiLower, v)) = []) :
    Shows (x.withHeaders hs) d now := by
  have hquota : (x.withHeaders hs).headers.quota = x.headers.quota := by
    rw [quota_withHeaders, hhs, List.append_nil]
  refine ⟨fun hallowed => ?_, fun hdenied => ?_⟩
  · rw [hquota]
    exact h.allowed hallowed
  · rw [hquota]
    exact h.denied hdenied

namespace App

/-! ## Behind the gate -/

/-- An answer that says nothing of a quota. -/
def Discreet : Answer → Prop
  | .ok (status, _) => status ≠ 429
  | .error f => Silent f.response

theorem discreet_ofString {status : Nat} (h : status ≠ 429) (detail : String) :
    Discreet (.error (.refused (.ofString status detail))) := ⟨h, rfl⟩

theorem discreet_crashed (c : Crash) : Discreet (.error (.crashed c)) := silent_ofCrash c

/-- The issues of a body are told of under 422, or not at all where they cannot be written. -/
theorem discreet_rejected (issues : List Issue) : Discreet (.error (rejected issues)) := by
  unfold rejected
  split
  · exact discreet_crashed _
  · exact ⟨(by decide : 422 ≠ 429), rfl⟩

/-- A route that sends a value under a status of its own is discreet unless that status is 429. -/
theorem discreet_send (shown : List Json) {status : Nat} (h : status ≠ 429) (v : Json) :
    Discreet (send shown (status, v)) := by
  unfold send
  split
  · exact h
  · exact discreet_crashed _

theorem discreet_showItem {status : Nat} (h : status ≠ 429) (r : Issuer.Record)
    (further : List (Text × Json)) : Discreet (showItem status r further) := by
  unfold showItem
  split
  · exact discreet_send _ h _
  · exact discreet_crashed _

theorem discreet_usageReport (window : Int) (rows : List Limiter.UsageRow) :
    Discreet (usageReport window rows) := by
  unfold usageReport
  split
  · exact discreet_send _ (by decide) _
  · exact discreet_crashed _

theorem discreet_of_requireAdmin {s : Settings} {r : Request} {f : Failure}
    (h : requireAdmin s r = .error f) : Discreet (.error f) := by
  unfold requireAdmin at h
  cases hshown : r.credentials? with
  | error refusal =>
    rw [hshown] at h
    cases h
    rw [refusal_of_credentials? hshown]
    exact ⟨(by decide : 401 ≠ 429), rfl⟩
  | ok shown =>
    rw [hshown] at h
    dsimp only [Except.mapError, bind, Except.bind] at h
    split at h
    · cases h
    · next d _ =>
      -- each reason to deny has a status of its own, and none of them is 429
      cases d with
      | required =>
        cases h
        exact discreet_ofString (by decide) _
      | failed =>
        cases h
        exact discreet_ofString (by decide) _
      | fault f =>
        cases h
        exact discreet_crashed _

theorem discreet_identity (issuer : Option Identity) : Discreet (identity issuer) := by
  cases issuer with
  | none => exact discreet_ofString (by decide) _
  | some i =>
    show Discreet (if isText i.id then _ else _)
    split
    · exact discreet_send _ (by decide) _
    · exact discreet_crashed _

theorem discreet_ownUsage (l : Limiter) (now : Int) (param : Text) (issuer : Option Identity) :
    Discreet (ownUsage l now param issuer) := by
  cases issuer with
  | none => exact discreet_ofString (by decide) _
  | some i =>
    show Discreet (if i.id.isText param then _ else _)
    split
    · exact discreet_usageReport _ _
    · exact discreet_ofString (by decide) _

theorem discreet_usage (s : Settings) (l : Limiter) (now : Int) (r : Request) :
    Discreet (usage s l now r) := by
  unfold usage
  cases hdoor : requireAdmin s r with
  | error f => exact discreet_of_requireAdmin hdoor
  | ok u => exact discreet_usageReport _ _

theorem discreet_createIssuer (app : App) (now : Int) (r : Request) (p : Payload) :
    Discreet (app.createIssuer now r p).answer := by
  unfold createIssuer
  -- at the door, then over the body, then in the store
  split
  · next hdoor => exact discreet_of_requireAdmin hdoor
  · split
    · exact discreet_rejected _
    · dsimp only
      split
      · exact discreet_crashed _
      · exact discreet_showItem (by decide) _ _

theorem discreet_listIssuers (app : App) (now : Int) (r : Request) :
    Discreet (app.listIssuers now r).answer := by
  unfold listIssuers
  split
  · next hdoor => exact discreet_of_requireAdmin hdoor
  · dsimp only
    split
    · exact discreet_crashed _
    · split
      · exact discreet_send _ (by decide) _
      · exact discreet_crashed _

theorem discreet_updateIssuer (app : App) (now : Int) (r : Request) (param : Text) (p : Payload) :
    Discreet (app.updateIssuer now r param p).answer := by
  unfold updateIssuer
  split
  · next hdoor => exact discreet_of_requireAdmin hdoor
  · split
    · exact discreet_rejected _
    · dsimp only
      split
      · exact discreet_crashed _
      · exact discreet_ofString (by decide) _
      · exact discreet_showItem (by decide) _ _

/-- **A route's own answer says nothing of a quota.** -/
theorem discreet_perform (app : App) (l : Limiter) (now : Int) (route : Route) (param : Text)
    (r : Request) (p : Payload) (issuer : Option Identity) :
    Discreet (app.perform l now route param r p issuer).answer := by
  cases route with
  | identity => exact discreet_identity issuer
  | ownUsage => exact discreet_ownUsage l now param issuer
  | usage => exact discreet_usage app.settings l now r
  | createIssuer => exact discreet_createIssuer app now r p
  | listIssuers => exact discreet_listIssuers app now r
  | updateIssuer => exact discreet_updateIssuer app now r param p
  | health => exact (by decide : 200 ≠ 429)

/-! ## Through the gate -/

/-- A discreet answer that passes no gate becomes a silent response. -/
theorem silent_of_discreet {answer : Answer} (h : Discreet answer) :
    Silent (respond answer none) := by
  cases answer with
  | ok answer => exact ⟨h, rfl⟩
  | error f =>
    -- a crash passes no hand that puts headers on it, the two others do
    cases f with
    | refused refusal => exact h.withHeaders rfl
    | invalid issues => exact h.withHeaders rfl
    | crashed c => exact silent_ofCrash c

/-- The quota is put on whatever a route answers, unless that is a crash. -/
theorem shows_of_discreet {answer : Answer} (h : Discreet answer) {d : Decision}
    (hd : d.allowed = true) (hw : d.isWritable = true) (now : Int)
    (hstatus : (respond answer (some (.ofWritable d hw none))).status ≠ 500) :
    Shows (respond answer (some (.ofWritable d hw none))) d now := by
  -- whatever is silent before the quota is put on it shows exactly that quota afterwards
  have hfresh : ∀ x : Response, Silent x →
      Shows (x.withHeaders (QuotaHeaders.ofWritable d hw none).pairs) d now := by
    intro x hx
    refine ⟨fun _ => ⟨hx.1, ?_⟩, fun hdenied => ?_⟩
    · rw [quota_withHeaders, hx.2, quota_pairs]
      rfl
    · rw [hd] at hdenied
      cases hdenied
  cases answer with
  | ok answer => exact hfresh (.json answer.1 answer.2) ⟨h, rfl⟩
  | error f =>
    cases f with
    | refused refusal => exact hfresh _ h
    | invalid issues => exact hfresh _ h
    | crashed c => exact absurd rfl hstatus

/-- **Without a charge, a served request is shown nothing of a quota.** -/
theorem silent_serve {app : App} {s : Service} (hs : app.service = some s) {now : Int}
    {r : Request} (h : s.gate.issuer? now (app.find now) (r.header? "x-api-key") = none)
    (route : Route) (param : Text) (p : Payload) :
    Silent (app.serve now route param r p).answer := by
  obtain ⟨directory, log, asked, outcome, hcheck, hadmitted⟩ :=
    Gate.check_of_issuer?_none h s.dispatcher route.template
  have hdenied := Gate.ne_exceeded_of_issuer?_none h s.dispatcher route.template
  rw [hcheck] at hdenied
  rw [answer_serve hs, hcheck]
  dsimp only
  cases outcome with
  | error d =>
    -- a gate that charged nothing may deny or fail, but never for the quota
    cases d with
    | unavailable => exact ⟨(by decide : 503 ≠ 429), rfl⟩
    | unknownKey => exact ⟨(by decide : 401 ≠ 429), rfl⟩
    | exceeded headers => exact absurd rfl (hdenied headers)
    | fault f => exact silent_ofCrash _
  | ok admission =>
    obtain rfl := hadmitted admission rfl
    exact silent_of_discreet (discreet_perform ..)

/-- **A charged request is shown the decision it was charged with**, unless it ends in a crash. -/
theorem shows_serve {app : App} {s : Service} (hs : app.service = some s) {now : Int}
    {r : Request} {i : Identity}
    (h : s.gate.issuer? now (app.find now) (r.header? "x-api-key") = some i)
    (route : Route) (param : Text) (p : Payload)
    (hstatus : (app.serve now route param r p).answer.status ≠ 500) :
    ∃ d, (s.gate.limiter.consume s.dispatcher now i.id i.tier route.template).answer = .ok d
      ∧ Shows (app.serve now route param r p).answer d now := by
  obtain ⟨directory, log, asked, hcheck⟩ :=
    Gate.check_of_issuer?_some h s.dispatcher route.template
  rw [answer_serve hs, hcheck] at hstatus ⊢
  dsimp only at hstatus ⊢
  cases hconsume : (s.gate.limiter.consume s.dispatcher now i.id i.tier route.template).answer with
  | error e =>
    -- a charge that fails is a crash
    have hcharge := Gate.answer_charge_of_error (g := { s.gate with directory := directory })
      hconsume
    rw [hcharge] at hstatus
    exact absurd rfl hstatus
  | ok d =>
    refine ⟨d, rfl, ?_⟩
    rcases Gate.answer_charge_cases (g := { s.gate with directory := directory }) hconsume with
      ⟨hw, hd, hcharge⟩ | ⟨hw, hd, seconds, hseconds, hcharge⟩ | hcharge | hcharge
    -- admitted: the route answers, and the quota is put on its answer
    · rw [hcharge] at hstatus ⊢
      exact shows_of_discreet (discreet_perform ..) hd hw now hstatus
    · rw [hcharge]
      refine ⟨fun hallowed => ?_, fun _ => ⟨rfl, seconds, hseconds, ?_, rfl⟩⟩
      · rw [hd] at hallowed
        cases hallowed
      · exact quota_pairs d hw (some seconds)
    -- and so is a decision that cannot be shown
    · rw [hcharge] at hstatus
      exact absurd rfl hstatus
    · rw [hcharge] at hstatus
      exact absurd rfl hstatus

/-! ## Requests -/

/-- A request that arrives at no door is shown nothing of a quota. -/
theorem silent_handle_of_astray (app : App) (now : Int) {r : Request} (h : arrival? r = none) :
    Silent (app.handle now r).answer := by
  -- no door: no route of that path or method, a slash too many, or a body that is not read
  have hdispatch : Silent (app.dispatch now r).answer := by
    unfold dispatch
    unfold arrival? at h
    split
    · exact ⟨(by decide : 404 ≠ 429), rfl⟩
    · exact ⟨(by decide : 405 ≠ 429), rfl⟩
    · exact ⟨(by decide : 307 ≠ 429), rfl⟩
    · next route param hroute =>
      rw [hroute] at h
      dsimp only at h
      split
      · next f _ =>
        cases f with
        | malformed => exact ⟨(by decide : 422 ≠ 429), rfl⟩
        | unreadable => exact ⟨(by decide : 400 ≠ 429), rfl⟩
      · next p hbody =>
        rw [show payload route r = .ok p from hbody] at h
        cases h
  -- the answer leaves as it is, or under the headers of another origin, or is a preflight
  unfold handle
  split
  · next response hresponse =>
    unfold Cors.preflight? at hresponse
    split at hresponse
    · split at hresponse
      · cases hresponse
        refine Silent.withHeaders ?_ (quota_preflight r)
        split
        · exact ⟨(by decide : 200 ≠ 429), rfl⟩
        · exact ⟨(by decide : 400 ≠ 429), rfl⟩
      · cases hresponse
    · cases hresponse
  · dsimp only
    split
    · exact hdispatch
    · exact hdispatch.withHeaders (quota_cors r)

/-! ## Charges -/

/-- **A request that is not charged is shown nothing of a quota.** -/
theorem silent_handle {app : App} {s : Service} (hs : app.service = some s) {now : Int}
    {r : Request} (h : s.gate.issuer? now (app.find now) (r.header? "x-api-key") = none) :
    Silent (app.handle now r).answer := by
  cases harrival : arrival? r with
  | none => exact silent_handle_of_astray app now harrival
  | some route =>
    obtain ⟨param, p, hroute, hbody⟩ := of_arrival? harrival
    have hserved := silent_serve hs h route param p
    rcases answer_handle_of_readable app now hroute hbody with hanswer | hanswer
    · rw [hanswer]
      exact hserved
    · rw [hanswer]
      exact hserved.withHeaders (quota_cors r)

/-- **A request that is charged is shown the decision**, unless it ends in a crash. -/
theorem shows_handle {app : App} {s : Service} (hs : app.service = some s) {now : Int}
    {r : Request} {route : Route} (harrival : arrival? r = some route) {i : Identity}
    (h : s.gate.issuer? now (app.find now) (r.header? "x-api-key") = some i)
    (hstatus : (app.handle now r).answer.status ≠ 500) :
    ∃ d, (s.gate.limiter.consume s.dispatcher now i.id i.tier route.template).answer = .ok d
      ∧ Shows (app.handle now r).answer d now := by
  obtain ⟨param, p, hroute, hbody⟩ := of_arrival? harrival
  rcases answer_handle_of_readable app now hroute hbody with hanswer | hanswer
  · rw [hanswer] at hstatus ⊢
    exact shows_serve hs h route param p hstatus
  · rw [hanswer] at hstatus ⊢
    obtain ⟨d, hconsume, hshown⟩ := shows_serve hs h route param p hstatus
    exact ⟨d, hconsume, hshown.withHeaders (quota_cors r)⟩

/-- **What a request is shown of its quota is true**, in each state that an application can reach.
A request is charged with one consume or with none, and the limiter and the dispatcher go through it
as through that.

* Without a charge no answer shows anything of a quota: neither one of the four headers nor 429.
* With one, every answer but a crash shows the decision of that very consume, each number once, and
  to whoever it denied, and nobody else, when to come back.
* There is none for a request that brings no key, meets no route, or whose key is not looked up. -/
theorem quota_of_request (settings : Settings) (store : Issuer.Store) (mint : Mint) (opened : Int)
    (past : List Call) (now : Int) (r : Request) :
    let app := Run.after step (start settings store mint opened) past
    let x := app.handle now r
    let charges := charged app ⟨now, .request r⟩
    ∃ s, app.service = some s
      ∧ x.state.meter = some (Run.after Limiter.perform (s.gate.limiter, s.dispatcher) charges)
      ∧ (charges = [] ∧ Silent x.answer
        ∨ ∃ (i : Identity) (route : Route), arrival? r = some route
          ∧ charges = [⟨now, .consume i.id i.tier route.template⟩]
          ∧ (x.answer.status ≠ 500 → ∃ d,
            (s.gate.limiter.consume s.dispatcher now i.id i.tier route.template).answer = .ok d
              ∧ Shows x.answer d now))
      ∧ (r.header? "x-api-key" = none ∨ r.header? "x-api-key" = some []
          ∨ (∀ route param, Route.find r.method r.path r.query ≠ .route route param)
          ∨ (∃ key e, r.header? "x-api-key" = some key
            ∧ (s.gate.directory.resolve now (app.find now) key).answer.outcome = .error e) →
        charges = [] ∧ Silent x.answer) := by
  intro app x charges
  obtain ⟨s, hs⟩ := exists_service_after settings store mint opened past
  have hmeter : x.state.meter
      = some (Run.after Limiter.perform (s.gate.limiter, s.dispatcher) charges) := by
    have hstep := meter_step app ⟨now, .request r⟩
    unfold meter at hstep
    rw [hs] at hstep
    exact hstep
  -- a request without a charge either meets no door or names no issuer
  have hastray : arrival? r = none → charges = [] ∧ Silent x.answer := fun harrival =>
    ⟨charged_of_astray app now harrival, silent_handle_of_astray app now harrival⟩
  have hunnamed : s.gate.issuer? now (app.find now) (r.header? "x-api-key") = none →
      charges = [] ∧ Silent x.answer := fun hissuer =>
    ⟨charged_of_issuer?_none hs hissuer, silent_handle hs hissuer⟩
  refine ⟨s, hs, hmeter, ?_, fun hunmetered => ?_⟩
  · cases harrival : arrival? r with
    | none => exact Or.inl (hastray harrival)
    | some route =>
      cases hissuer : s.gate.issuer? now (app.find now) (r.header? "x-api-key") with
      | none => exact Or.inl (hunnamed hissuer)
      | some i =>
        exact Or.inr ⟨i, route, rfl, charged_of_issuer?_some hs harrival hissuer,
          shows_handle hs harrival hissuer⟩
  -- the four requests that are never charged fall under these two
  · rcases hunmetered with hkey | hkey | hlost | ⟨key, e, hkey, hresolve⟩
    · refine hunnamed (Gate.issuer?_of_keyless ?_)
      rw [hkey]
      rfl
    · refine hunnamed (Gate.issuer?_of_keyless ?_)
      rw [hkey]
      rfl
    · refine hastray ?_
      cases harrival : arrival? r with
      | none => rfl
      | some route =>
        obtain ⟨param, p, hroute, -⟩ := of_arrival? harrival
        exact absurd hroute (hlost route param)
    · exact hunnamed (Gate.issuer?_of_error hkey hresolve)

/-! ## A request beyond the quota

The settings let a free issuer make no requests at all. -/

/-- A request to the health check with the key `k`. -/
def keyedHealth : Request where
  method := "GET"
  path := "/health"
  headers := [("x-api-key", "k")]

/-- An application whose free issuers may make no request. -/
def appOfNone : App := start { quota := { freeLimit := 0 } } storeOfOne { source := .counting } 0

theorem arrival?_keyedHealth : arrival? keyedHealth = some .health := by decide +kernel

/-- The key `k` is known: the settings of the quota do not reach the directory or the store. -/
theorem resolve_appOfNone :
    ((serviceOf { quota := { freeLimit := 0 } } 0).gate.directory.resolve 5 (appOfNone.find 5)
      "k").answer.outcome = .ok (some ⟨.str "a", .free⟩) := by
  have hdirectory : (serviceOf { quota := { freeLimit := 0 } } 0).gate.directory
      = (serviceOf {} 0).gate.directory := rfl
  have hfind : appOfNone.find 5 = appOfOne.find 5 := rfl
  rw [hdirectory, hfind]
  exact resolve_appOfOne

/-- The first request of the issuer is denied for a whole window, and told so. -/
theorem quota_of_request_of_exceeded :
    (appOfNone.handle 5 keyedHealth).answer.status = 429
      ∧ (appOfNone.handle 5 keyedHealth).answer.headers.quota
        = [(("x-ratelimit-limit" : Text), ("0" : Text)), ("x-ratelimit-remaining", "0"),
          ("x-ratelimit-reset", "60"), ("retry-after", "60")] := by
  have hstatus : (appOfNone.handle 5 keyedHealth).answer.status = 429 := by decide +kernel
  obtain ⟨s, hs, -, hcases, -⟩ := quota_of_request { quota := { freeLimit := 0 } } storeOfOne
    { source := .counting } 0 [] 5 keyedHealth
  obtain rfl : serviceOf { quota := { freeLimit := 0 } } 0 = s := Option.some.inj hs
  rw [Run.after_nil, ← appOfNone] at hs hcases
  have hkey : keyedHealth.header? "x-api-key" = some ("k" : Text) := by decide
  have hcharged : charged appOfNone ⟨5, .request keyedHealth⟩
      = [⟨5, .consume (.str "a") .free (Route.template .health)⟩] :=
    charged_of_resolved hs arrival?_keyedHealth hkey (by decide) resolve_appOfNone
  rcases hcases with ⟨hnone, -⟩ | ⟨i, route, hroute, hcharges, hshown⟩
  · rw [hcharged] at hnone
    cases hnone
  · rw [hcharged] at hcharges
    -- the charge names the issuer, the tier and the route that the decision is about
    injection hcharges with hcall
    injection hcall with _ haction
    injection haction with hid htier _
    rw [arrival?_keyedHealth] at hroute
    obtain ⟨d, hconsume, hdecision⟩ := hshown (by rw [hstatus]; decide)
    rw [← hid, ← htier, ← Option.some.inj hroute] at hconsume
    obtain rfl : (⟨false, 0, 0, 60005⟩ : Decision) = d := Except.ok.inj hconsume
    obtain ⟨-, seconds, hseconds, hquota, -⟩ := hdecision.denied rfl
    have hdelay : QuotaHeaders.retrySeconds? 60005 5 = some 60 := by decide +kernel
    rw [hdelay] at hseconds
    rw [hquota, ← Option.some.inj hseconds]
    exact ⟨hstatus, by decide⟩

end App

end IssuerGate.Http
