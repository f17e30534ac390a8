import IssuerGate.Proofs.Http.Authority
import IssuerGate.Proofs.Issuer.Interchange
import IssuerGate.Proofs.Limiter.Origin

/-!
# IssuerGate — who is shown as an issuer

Two routes are for issuers alone: the one that names the caller and the one that shows the caller's
usage. A gate that fails open admits requests whose key was never looked up, and the store may
change or fail at any time; neither makes an issuer of a caller.

* **`Finds`**, **`LookedUp`** — a lookup, of this moment or of an earlier request of the run, in
  which the store found an active issuer with the hash of the key.
* **`gate_after`** — what each cached identity goes back to, in each state of a run.
* **`resolved_of_serve`** — on these routes only who is resolved is answered as asked.
* **`charged_of_mem_ownRows`** — and is shown buckets that were opened for nobody else.
* **`identity_of_run`** — so whoever is shown as an issuer was found to be one less than a lifetime
  ago, and is shown nobody else's usage.
-/

namespace IssuerGate

/-! ## What a lookup finds -/

namespace Issuer.Store

/-- A store finds active records only, and by the hash of their key. -/
theorem opensWith_of_findActive {s : Store} {now : Calendar.Instant} {keyHash : Text} {r : Record}
    (h : (s.findActive now keyHash).2 = .ok (some r)) : r.opensWith keyHash = true := by
  cases s with
  | file f =>
    have hread : ((f.records .search now).2.mapError Fault.ofFile).map
        (fun rs => rs.find? (·.opensWith keyHash)) = .ok (some r) := h
    cases hrecords : (f.records .search now).2 with
    | error e =>
      rw [hrecords] at hread
      cases hread
    | ok rs =>
      rw [hrecords] at hread
      have hfound : rs.find? (·.opensWith keyHash) = some r := Except.ok.inj hread
      simpa using List.find?_some hfound
  | table t =>
    rcases findActive_table_cases now keyHash t with ⟨fault, hread⟩ | ⟨rows, -, hread⟩
    · rw [hread] at h
      cases h
    · rw [hread] at h
      obtain ⟨row, hrow, rfl⟩ := Option.map_eq_some_iff.mp (Except.ok.inj h)
      have hopens := List.find?_some hrow
      rw [← Row.opensWith_undated] at hopens
      -- the time of creation has no say in it
      exact hopens

/-- What a lookup finds is an active record. -/
theorem findActive_of_lookup {s : Store} {now : Calendar.Instant} {keyHash : Text} {f : Found}
    (h : (s.lookup now keyHash).finding = .ok (some f)) :
    ∃ r, (s.findActive now keyHash).2 = .ok (some r) ∧ f = ⟨r.id, .str r.tier.name⟩ := by
  unfold lookup at h
  dsimp only at h
  cases hfound : (s.findActive now keyHash).2 with
  | error e =>
    rw [hfound] at h
    cases h
  | ok found =>
    rw [hfound] at h
    obtain ⟨r, hr, hf⟩ := Option.map_eq_some_iff.mp (Except.ok.inj h)
    exact ⟨r, by rw [hr], hf.symm⟩

end Issuer.Store

namespace Http

/-- Is the route for issuers alone? -/
def Route.personal : Route → Bool
  | identity | ownUsage => true
  | usage | createIssuer | listIssuers | updateIssuer | health => false

namespace App

/-! ## Lookups of a run -/

/-- A resolution of the key that begins a lookup, in which the store finds an active record with the
hash of the key, of this identity. -/
def Finds (app : App) (now : Int) (key : Text) (i : Identity) : Prop :=
  ∃ s keyHash record, app.service = some s
    ∧ (s.gate.directory.resolve now (app.find now) key).answer.asked = true
    ∧ ApiKey.hash key = .ok keyHash
    ∧ (app.store.findActive (Calendar.ofMilliseconds now) keyHash).2 = .ok (some record)
    ∧ record.opensWith keyHash = true ∧ record.id = i.id ∧ record.tier = i.tier

/-- A request of the run, at some reading, whose key was looked up and found to be of this
identity. -/
def LookedUp (first : App) (past : List Call) (t : Int) (key : Text) (i : Identity) : Prop :=
  ∃ before r rest, past = before ++ ⟨t, .request r⟩ :: rest ∧ (arrival? r).isSome
    ∧ r.header? "x-api-key" = some key ∧ Finds (Run.after step first before) t key i

variable {first : App}

theorem LookedUp.concat {past : List Call} {t : Int} {key : Text} {i : Identity}
    (h : LookedUp first past t key i) (c : Call) : LookedUp first (past ++ [c]) t key i := by
  obtain ⟨before, r, rest, hpast, hfinds⟩ := h
  exact ⟨before, r, rest ++ [c], by rw [hpast, List.append_assoc, List.cons_append], hfinds⟩

/-- A lookup of a run is not later than what comes behind the run. -/
theorem LookedUp.le_of_ordered {past : List Call} {t : Int} {key : Text} {i : Identity}
    (h : LookedUp first past t key i) {c : Call} (hclock : Run.Ordered Call.now (past ++ [c])) :
    t ≤ c.now := by
  obtain ⟨before, r, rest, hpast, -⟩ := h
  exact (Run.ordered_concat.mp hclock).2 ⟨t, .request r⟩ (by rw [hpast]; simp)

/-- An issuer whom the directory asks for is found by the store now. -/
theorem finds_of_ask {app : App} {s : Service} (hs : app.service = some s) {now : Int} {key : Text}
    {f : Found} (hcached : s.gate.directory.cached? now key = none)
    (hask : (s.gate.directory.ask (app.find now) key).2.2 = .ok (some f)) :
    Finds app now key f.identity := by
  obtain ⟨hasked, keyHash, hkey, hfinding⟩ := Directory.ask_eq_ok hask
  obtain ⟨record, hrecord, rfl⟩ := Issuer.Store.findActive_of_lookup hfinding
  refine ⟨s, keyHash, record, hs, ?_, hkey, hrecord,
    Issuer.Store.opensWith_of_findActive hrecord, rfl, ?_⟩
  · rw [Directory.answer_resolve_of_uncached hcached]
    exact hasked
  · exact (Tier.ofStored_name record.tier).symm

/-! ## Runs -/

/-- What one call does to the service: nothing, or what the gate's check of a request does. -/
theorem service_step_cases {app : App} {s : Service} (hs : app.service = some s) (c : Call) :
    (step app c).state.service = some s
      ∨ ∃ r route, c.action = .request r ∧ arrival? r = some route
        ∧ (step app c).state.service = some
          ⟨(Gate.perform (s.gate, s.dispatcher) (app.gateCall c.now route r)).state.1,
            (Gate.perform (s.gate, s.dispatcher) (app.gateCall c.now route r)).state.2⟩ := by
  obtain ⟨now, action⟩ := c
  cases action with
  | edit store => exact Or.inl hs
  | request r =>
    cases harrival : arrival? r with
    | none =>
      refine Or.inl ?_
      show (app.handle now r).state.service = some s
      rw [state_handle_of_astray app now harrival, hs]
    | some route =>
      exact Or.inr ⟨r, route, rfl, harrival, service_handle_of_arrival hs now harrival⟩

/-- The gate of a started application: its settings are those of the start, and each cached identity
goes back to a lookup of the run, one lifetime before its entry ends. -/
structure Vouched (settings : Settings) (past : List Call) (first : App) (g : Gate) : Prop where
  failOpen : g.failOpen = settings.lookupFailOpen
  ttlMs : g.directory.ttlMs = settings.cacheTtlSeconds * 1000
  patience : g.directory.patience = .seconds settings.lookupTimeoutSeconds
  backed : g.directory.Backed (LookedUp first past)

/-- A request keeps the gate vouched for, with its own lookup as further evidence. -/
theorem Vouched.request {settings : Settings} {past : List Call} {s : Service}
    (hs : (Run.after step first past).service = some s) (h : Vouched settings past first s.gate)
    {now : Int} {r : Request} {route : Route} (harrival : arrival? r = some route) :
    Vouched settings (past ++ [⟨now, .request r⟩]) first
      (Gate.perform (s.gate, s.dispatcher)
        ((Run.after step first past).gateCall now route r)).state.1 := by
  have hkept := h.backed.mono fun t key i h => LookedUp.concat h ⟨now, .request r⟩
  have hdirectory := Gate.directory_check s.gate s.dispatcher now
    ((Run.after step first past).find now) (r.header? "x-api-key") route.template
  have hfailOpen := Gate.failOpen_perform (s.gate, s.dispatcher)
    ((Run.after step first past).gateCall now route r)
  unfold Gate.perform gateCall at hfailOpen ⊢
  dsimp only at hfailOpen ⊢
  -- without a key the directory is not asked and stays as it is
  cases hkey : (r.header? "x-api-key").filter (· ≠ []) with
  | none =>
    rw [hkey] at hdirectory
    refine ⟨hfailOpen.trans h.failOpen, ?_, ?_, ?_⟩ <;> rw [hdirectory]
    · exact h.ttlMs
    · exact h.patience
    · exact hkept
  | some key =>
    rw [hkey] at hdirectory
    dsimp only at hdirectory
    obtain ⟨httl, hpatience⟩ := Directory.settings_resolve s.gate.directory now
      ((Run.after step first past).find now) key
    refine ⟨hfailOpen.trans h.failOpen, ?_, ?_, ?_⟩ <;> rw [hdirectory]
    · exact httl.trans h.ttlMs
    · exact hpatience.trans h.patience
    -- with one it may ask: what it learns is backed by this very request
    · refine hkept.resolve fun f hcached hask => ?_
      exact ⟨past, r, [], rfl, by rw [harrival]; rfl, (Option.filter_eq_some_iff.mp hkey).1,
        finds_of_ask hs hcached hask⟩

/-- **Each state of a run has a gate whose cached identities were looked up in it.** -/
theorem gate_after (settings : Settings) (store : Issuer.Store) (mint : Mint) (opened : Int)
    (past : List Call) :
    ∃ s, (Run.after step (start settings store mint opened) past).service = some s
      ∧ Vouched settings past (start settings store mint opened) s.gate := by
  induction past using List.reverseRecOn with
  | nil => exact ⟨_, rfl, rfl, rfl, rfl, fun e he => by cases he⟩
  | append_singleton past c ih =>
    obtain ⟨s, hs, hvouched⟩ := ih
    rw [Run.after_concat]
    rcases service_step_cases hs c with hservice | ⟨r, route, hrequest, harrival, hservice⟩
    · exact ⟨s, hservice, hvouched.failOpen, hvouched.ttlMs, hvouched.patience,
        hvouched.backed.mono fun t key i h => LookedUp.concat h c⟩
    · obtain ⟨now, action⟩ := c
      obtain rfl : action = .request r := hrequest
      exact ⟨_, hservice, hvouched.request hs harrival⟩

/-- An identity that a key is resolved to was found by this request's own lookup, or by one of this
key less than a lifetime ago. -/
theorem finds_or_lookedUp {settings : Settings} {past : List Call} {s : Service}
    (hs : (Run.after step first past).service = some s) (h : Vouched settings past first s.gate)
    {now : Int} {key : Text} {i : Identity}
    (hresolve : (s.gate.directory.resolve now ((Run.after step first past).find now)
      key).answer.outcome = .ok (some i)) :
    Finds (Run.after step first past) now key i
      ∨ ∃ t, now < t + settings.cacheTtlSeconds * 1000 ∧ LookedUp first past t key i := by
  rcases Directory.resolve_eq_some hresolve with hcached | ⟨hcached, f, hask, hi⟩
  · obtain ⟨t, hlt, hlooked⟩ := h.backed.of_cached hcached
    rw [h.ttlMs] at hlt
    exact Or.inr ⟨t, hlt, hlooked⟩
  · rw [← hi]
    exact Or.inl (finds_of_ask hs hcached hask)

/-! ## The routes for issuers -/

/-- The routes of an issuer answer 401 to nobody. -/
theorem perform_of_nobody {route : Route} (hroute : route.personal = true) (app : App) (l : Limiter)
    (now : Int) (param : Text) (r : Request) (p : Payload) :
    (app.perform l now route param r p none).answer
      = .error (.refused (.ofString 401 "Missing API key")) := by
  cases route with
  | identity => rfl
  | ownUsage => rfl
  | usage => cases hroute
  | createIssuer => cases hroute
  | listIssuers => cases hroute
  | updateIssuer => cases hroute
  | health => cases hroute

variable {app : App} {s : Service} {now : Int} {route : Route} {r : Request}

/-- Without a key nobody is an issuer. -/
theorem status_serve_of_keyless (hs : app.service = some s) (hroute : route.personal = true)
    (hkey : (r.header? "x-api-key").filter (· ≠ []) = none) (param : Text) (p : Payload) :
    (app.serve now route param r p).answer.status = 401 := by
  rw [answer_serve hs, Gate.check_of_keyless hkey]
  dsimp only [Gate.unmetered]
  rw [perform_of_nobody hroute]
  rfl

theorem status_serve_of_unknown (hs : app.service = some s) {key : Text}
    (hkey : (r.header? "x-api-key").filter (· ≠ []) = some key)
    (hresolve : (s.gate.directory.resolve now (app.find now) key).answer.outcome = .ok none)
    (param : Text) (p : Payload) : (app.serve now route param r p).answer.status = 401 := by
  rw [answer_serve hs, Gate.check_of_unknown hkey hresolve]
  rfl

/-- Whoever was only let in is not taken for an issuer. -/
theorem status_serve_of_unanswered (hs : app.service = some s) (hroute : route.personal = true)
    {key : Text} (hkey : (r.header? "x-api-key").filter (· ≠ []) = some key) {e : LookupError}
    (hresolve : (s.gate.directory.resolve now (app.find now) key).answer.outcome
      = .error (.unanswered e))
    (param : Text) (p : Payload) :
    (app.serve now route param r p).answer.status = if s.gate.failOpen then 401 else 503 := by
  rw [answer_serve hs, Gate.check_of_unanswered hkey hresolve]
  cases hopen : s.gate.failOpen with
  | true =>
    dsimp only [Gate.unanswered, Gate.unmetered]
    rw [if_pos rfl]
    dsimp only
    rw [perform_of_nobody hroute]
    rfl
  | false => rfl

/-- **Whoever is answered as asked on such a route is resolved**, and the answer is the route's own
on behalf of that identity. -/
theorem resolved_of_serve (hs : app.service = some s) (hroute : route.personal = true)
    {param : Text} {p : Payload} (hstatus : (app.serve now route param r p).answer.status = 200) :
    ∃ key i service quota, r.header? "x-api-key" = some key ∧ key ≠ []
      ∧ (s.gate.directory.resolve now (app.find now) key).answer.outcome = .ok (some i)
      ∧ (app.serve now route param r p).state.service = some service
      ∧ (app.serve now route param r p).answer
        = respond (App.perform { app with service := service } service.gate.limiter now route
            param r p (some i)).answer quota := by
  -- every way but one ends in a status other than 200: keyless, unanswered, unknown, denied
  cases hkey : (r.header? "x-api-key").filter (· ≠ []) with
  | none =>
    rw [status_serve_of_keyless hs hroute hkey] at hstatus
    cases hstatus
  | some key =>
    obtain ⟨hgiven, hne⟩ := Option.filter_eq_some_iff.mp hkey
    cases hresolve : (s.gate.directory.resolve now (app.find now) key).answer.outcome with
    | error e =>
      cases e with
      | unanswered e =>
        rw [status_serve_of_unanswered hs hroute hkey hresolve] at hstatus
        split at hstatus <;> cases hstatus
      | number f =>
        rw [answer_serve hs, Gate.check_of_fault hkey hresolve] at hstatus
        cases hstatus
    | ok found =>
      cases found with
      | none =>
        rw [status_serve_of_unknown hs hkey hresolve] at hstatus
        cases hstatus
      | some i =>
        have hanswer := answer_serve hs now route param r p
        dsimp only at hanswer
        have hcharge : (s.gate.check s.dispatcher now (app.find now) (r.header? "x-api-key")
            route.template).outcome
            = (Gate.charge
              { s.gate with directory := (s.gate.directory.resolve now (app.find now) key).state }
              s.dispatcher now i route.template).answer := by
          rw [Gate.check_of_resolved hkey hresolve]
        cases houtcome : (s.gate.check s.dispatcher now (app.find now) (r.header? "x-api-key")
            route.template).outcome with
        | error d =>
          have hdenied := status_denied d
          rw [hanswer, houtcome] at hstatus
          dsimp only at hstatus
          omega
        | ok admission =>
          rw [houtcome] at hanswer hcharge
          dsimp only at hanswer
          -- the one that is left, an admission, names the issuer that was resolved
          obtain ⟨d, -, -, hissuer, -⟩ := Gate.answer_charge_eq_ok hcharge.symm
          rw [hissuer] at hanswer
          exact ⟨key, i, _, admission.headers, hgiven, by simpa using hne, hresolve,
            service_serve hs now route param r p, hanswer⟩

/-! ## What they show -/

theorem body_respond_send {shown : List Json} {v : Json} {quota : Option QuotaHeaders}
    (h : (respond (send shown (200, v)) quota).status = 200) :
    (respond (send shown (200, v)) quota).body = .json v := by
  unfold send at h ⊢
  split at h
  · next hsendable =>
    rw [if_pos hsendable]
    rfl
  · cases h

/-- Under 200 the identity of an issuer is its id and its tier. -/
theorem body_respond_identity {i : Identity} {quota : Option QuotaHeaders}
    (h : (respond (identity (some i)) quota).status = 200) :
    (respond (identity (some i)) quota).body
      = .json (.obj [("id", i.id), ("tier", .str i.tier.name)]) := by
  unfold identity at h ⊢
  dsimp only [requireIssuer, bind, Except.bind] at h ⊢
  split at h
  · next htext =>
    rw [if_pos htext]
    exact body_respond_send h
  · cases h

/-- The rows of the caller's own usage. -/
def ownRows (l : Limiter) (now : Int) (param : Text) : List Limiter.UsageRow :=
  (l.usage now).filter (·.issuer.isText param)

/-- Under 200 the usage of an issuer was asked for by its own id and shows its own rows. -/
theorem of_respond_ownUsage {l : Limiter} {now : Int} {param : Text} {i : Identity}
    {quota : Option QuotaHeaders}
    (h : (respond (ownUsage l now param (some i)) quota).status = 200) :
    i.id = .str param
      ∧ (respond (ownUsage l now param (some i)) quota).body
        = .json (.obj [("window_ms", .int l.window),
          ("data", .arr ((ownRows l now param).map usageItem))]) := by
  unfold ownUsage at h ⊢
  dsimp only [requireIssuer, bind, Except.bind] at h ⊢
  split at h
  · next hown =>
    rw [if_pos hown]
    unfold usageReport at h ⊢
    split at h
    · next htexts =>
      rw [if_pos htexts]
      exact ⟨Json.eq_of_isText hown, body_respond_send h⟩
    · cases h
  · cases h

/-! ## Charges of a run -/

theorem colonFree_template (route : Route) : .scalar ':' ∉ route.template := by
  cases route <;> decide

/-- Only consumes are charged, each under the path of a route. -/
theorem route_of_mem_requests {app : App} {calls : List Call} {q : Counters.Request}
    (h : q ∈ Limiter.requests (ledger app calls)) : ∃ route : Route, q.route = route.template := by
  -- the first call makes one charge at most, on the template of a route
  induction calls generalizing app with
  | nil => cases h
  | cons c calls ih =>
    unfold ledger at h
    rw [Limiter.requests_append, List.mem_append] at h
    rcases h with hown | hlater
    · rcases charged_cases app c with hnone | ⟨i, route, hcharged⟩
      · rw [hnone] at hown
        cases hown
      · rw [hcharged, Limiter.requests_singleton] at hown
        rw [← Option.some.inj (Option.mem_toList.mp hown)]
        exact ⟨route, rfl⟩
    · exact ih hlater

/-- **A line of the caller's own usage is the caller's**: its bucket was opened for the caller, and
has been charged for nobody whose id reads otherwise and for no other route. -/
theorem charged_of_mem_ownRows {settings : Settings} {store : Issuer.Store} {mint : Mint}
    {opened : Int} {calls : List Call} {s : Service}
    (hs : (Run.after step (start settings store mint opened) calls).service = some s)
    {now : Int} {param : Text} {row : Limiter.UsageRow}
    (hrow : row ∈ ownRows s.gate.limiter now param) :
    let spent := Limiter.requests (ledger (start settings store mint opened) calls)
    row.issuer = .str param
      ∧ (∃ q ∈ spent, q.issuer = .str param ∧ q.route = row.route)
      ∧ ∀ q ∈ spent, q.key = bucketKey row.issuer row.route →
        q.issuer.display = param ∧ q.route = row.route := by
  intro spent
  obtain ⟨hused, hown⟩ := List.mem_filter.mp hrow
  have hissuer : row.issuer = .str param := Json.eq_of_isText hown
  have hmeter := meter_after (start settings store mint opened) calls
  unfold meter at hmeter
  rw [hs] at hmeter
  have hlimiter := congrArg Prod.fst (Option.some.inj hmeter)
  dsimp only at hlimiter
  rw [hlimiter] at hused
  obtain ⟨q, hq, hqissuer, hqroute⟩ := Limiter.exists_of_mem_usage rfl _ hused
  refine ⟨hissuer, ⟨q, hq, hqissuer.trans hissuer, hqroute⟩, fun x hx hkey => ?_⟩
  -- templates are free of colons, so a shared key means one id as shown and one route
  obtain ⟨route, hroute⟩ := route_of_mem_requests hq
  obtain ⟨other, hother⟩ := route_of_mem_requests hx
  rw [← hqroute, hroute] at hkey ⊢
  unfold Counters.Request.key at hkey
  rw [hother] at hkey ⊢
  obtain ⟨hdisplay, hsame⟩ :=
    bucketKey_inj_of_routes (colonFree_template other) (colonFree_template route) hkey
  rw [hissuer] at hdisplay
  exact ⟨hdisplay, hsame⟩

/-! ## Requests -/

theorem payload_of_personal {route : Route} (hroute : route.personal = true) (r : Request) :
    payload route r = .ok .absent := by
  cases route with
  | identity => rfl
  | ownUsage => rfl
  | usage => cases hroute
  | createIssuer => cases hroute
  | listIssuers => cases hroute
  | updateIssuer => cases hroute
  | health => cases hroute

/-- **Whoever is shown as an issuer is one**, in each run whose clock does not go back, whoever
changes the store in between and whether it answers or not.

* A request that is answered as asked by one of the two routes for issuers brings a key that was
  found to be of an active issuer, by its own lookup or by one of this run less than a lifetime ago.
  The answer shows the id of that issuer; the usage is shown under no other id, and holds only
  buckets that were opened for it.
* Without a key, with an unknown one, and with one that nobody could look up, the request is
  unauthorized there, also where the gate let it pass; a gate that does not is unavailable. -/
theorem identity_of_run (settings : Settings) (store : Issuer.Store) (mint : Mint) (opened : Int)
    (past : List Call) (now : Int) (r : Request) (route : Route) (param : Text)
    (hclock : Run.Ordered Call.now (past ++ [⟨now, .request r⟩]))
    (hroute : Route.find r.method r.path r.query = .route route param)
    (hpersonal : route = .identity ∨ route = .ownUsage) :
    let first := start settings store mint opened
    let app := Run.after step first past
    let x := (app.handle now r).answer
    let spent := Limiter.requests (ledger first (past ++ [⟨now, .request r⟩]))
    ∃ s, app.service = some s
      ∧ (x.status = 200 → ∃ key i, r.header? "x-api-key" = some key ∧ key ≠ []
        ∧ (Finds app now key i ∨ ∃ t, t ≤ now ∧ now < t + settings.cacheTtlSeconds * 1000
          ∧ LookedUp first past t key i)
        ∧ (route = .identity → x.body = .json (.obj [("id", i.id), ("tier", .str i.tier.name)]))
        ∧ (route = .ownUsage → i.id = .str param
          ∧ ∃ window rows, x.body = .json (.obj [("window_ms", .int window),
              ("data", .arr (List.map usageItem rows))])
            ∧ ∀ row ∈ rows, row.issuer = i.id
              ∧ (∃ q ∈ spent, q.issuer = i.id ∧ q.route = row.route)
              ∧ ∀ q ∈ spent, q.key = bucketKey row.issuer row.route →
                q.issuer.display = param ∧ q.route = row.route))
      ∧ (r.header? "x-api-key" = none ∨ r.header? "x-api-key" = some [] → x.status = 401)
      ∧ ∀ key, r.header? "x-api-key" = some key → key ≠ [] →
        let outcome := (s.gate.directory.resolve now (app.find now) key).answer.outcome
        (outcome = .ok none → x.status = 401)
          ∧ ∀ e, outcome = .error e → x.status = if settings.lookupFailOpen then 401 else 503 := by
  intro first app x spent
  have hroutes : route.personal = true := by
    rcases hpersonal with rfl | rfl <;> rfl
  have hbody := payload_of_personal hroutes r
  obtain ⟨s, hs, hvouched⟩ := gate_after settings store mint opened past
  obtain ⟨hstatus, hshown, -⟩ := shown_handle_of_readable app now hroute hbody
  have hkeyed : ∀ key, r.header? "x-api-key" = some key → key ≠ [] →
      (r.header? "x-api-key").filter (· ≠ []) = some key := fun key hkey hne => by
    rw [hkey, Option.filter_some_pos (by simpa using hne)]
  refine ⟨s, hs, fun hok => ?_, fun hnone => ?_,
    fun key hkey hne => ⟨fun hunknown => ?_, fun e he => ?_⟩⟩
  · have hserved := hstatus.symm.trans hok
    obtain ⟨key, i, service, quota, hkey, hne, hresolve, hservice, hanswer⟩ :=
      resolved_of_serve hs hroutes hserved
    rw [hanswer] at hserved hshown
    refine ⟨key, i, hkey, hne, ?_, ?_, ?_⟩
    · rcases finds_or_lookedUp hs hvouched hresolve with hfinds | ⟨t, hlt, hlooked⟩
      · exact Or.inl hfinds
      · exact Or.inr ⟨t, hlooked.le_of_ordered hclock, hlt, hlooked⟩
    · rintro rfl
      exact hshown.trans (body_respond_identity hserved)
    · rintro rfl
      obtain ⟨hid, hrows⟩ := of_respond_ownUsage hserved
      have hafter :
          (Run.after step first (past ++ [⟨now, .request r⟩])).service = some service := by
        rw [Run.after_concat]
        show (app.handle now r).state.service = _
        rw [state_handle_of_readable hroute hbody, hservice]
      refine ⟨hid, service.gate.limiter.window, ownRows service.gate.limiter now param,
        hshown.trans hrows, fun row hrow => ?_⟩
      rw [hid]
      exact charged_of_mem_ownRows hafter hrow
  · refine hstatus.trans (status_serve_of_keyless hs hroutes ?_ param .absent)
    rcases hnone with hnone | hempty
    · rw [hnone]
      rfl
    · rw [hempty]
      rfl
  · exact hstatus.trans (status_serve_of_unknown hs (hkeyed key hkey hne) hunknown param .absent)
  · cases e with
    | unanswered e =>
      rw [← hvouched.failOpen]
      exact hstatus.trans
        (status_serve_of_unanswered hs hroutes (hkeyed key hkey hne) he param .absent)
    | number f =>
      -- a time that is a double is a number to write
      have hpatience := Directory.resolve_eq_number he
      rw [hvouched.patience] at hpatience
      cases hpatience

/-! ## An issuer of a store that is gone

The issuer asks who it is. Then the store loses its table, and the issuer asks again. -/

/-- A request to name the caller, with the key `k`. -/
def keyedIdentity : Request where
  method := "GET"
  path := "/api/issuers/me"
  headers := [("x-api-key", "k")]

/-- The run up to the second request. -/
def pastOfOutage : List Call := [⟨0, .request keyedIdentity⟩, ⟨3, .edit (.table none)⟩]

/-- The request meets the route for the identity of its issuer. -/
theorem find_keyedIdentity :
    Route.find keyedIdentity.method keyedIdentity.path keyedIdentity.query
      = .route .identity [] := by
  decide +kernel

def appOfOutage : App := Run.after step appOfOne pastOfOutage

theorem run_appOfOutage :
    Run.after step (start {} storeOfOne { source := .counting } 0) pastOfOutage = appOfOutage := rfl

/-- The second answer goes back to the lookup for the first one. -/
theorem identity_of_run_of_outage :
    Run.Ordered Call.now (pastOfOutage ++ [⟨5, .request keyedIdentity⟩])
      ∧ (appOfOutage.handle 5 keyedIdentity).answer.status = 200
      ∧ ∃ t i, t ≤ 5 ∧ LookedUp appOfOne pastOfOutage t "k" i
        ∧ (appOfOutage.handle 5 keyedIdentity).answer.body
          = .json (.obj [("id", i.id), ("tier", .str i.tier.name)]) := by
  have hclock : Run.Ordered Call.now (pastOfOutage ++ [⟨5, .request keyedIdentity⟩]) := by decide
  have hstatus : (appOfOutage.handle 5 keyedIdentity).answer.status = 200 := by decide +kernel
  have hheader : keyedIdentity.header? "x-api-key" = some ("k" : Text) := by decide
  obtain ⟨s, hs, hok, -⟩ := identity_of_run {} storeOfOne { source := .counting } 0 pastOfOutage 5
    keyedIdentity .identity [] hclock find_keyedIdentity (Or.inl rfl)
  rw [run_appOfOutage, ← appOfOne] at hok
  obtain ⟨key, i, hkey, -, hlooked, hbody, -⟩ := hok hstatus
  rw [hheader] at hkey
  rw [← Option.some.inj hkey] at hlooked
  refine ⟨hclock, hstatus, ?_⟩
  rcases hlooked with ⟨-, _, record, -, -, -, hfound, -⟩ | ⟨t, hle, -, hlooked⟩
  · -- there is no table left to find anything in
    cases hfound
  · exact ⟨t, i, hle, hlooked, hbody rfl⟩

end App

end Http

end IssuerGate
