import IssuerGate.Proofs.Http.Metering

/-!
# IssuerGate — who may change the issuers

The store is behind two doors: the gate, which never writes, and the admin's credentials, which only
the routes under `/api/admin` and the usage report ask for. Between a request and the store stand the
route it meets, the body it brings and what the gate says of its key; none of them opens the second
door.

* **`Authorized`** — a request shows the name and the password of the configured admin.
* **`perform_of_refused`** — an admin's route does nothing for any other request.
* **`store_handle_of_ne`** — so a request that changes the store met one of the two routes that
  write, and is authorized.
* **`status_of_unauthorized`** — what the admin alone may see is shown to nobody else.
* **`store_after_of_unauthorized`** — requests without an admin's among them leave the store to those
  who edit it by other means.
* **`store_of_request`** — the promise to the admin, in each state that an application can reach.
-/

namespace IssuerGate

/-! ## Credentials -/

namespace Admin.Account

/-- A password is accepted for a kept form that it passes. -/
theorem exists_kept_of_accepts {a : Account} {password : Text}
    (h : a.accepts password = .ok true) :
    ∃ kept, a.keptHash = .ok (some kept) ∧ Password.verify password kept = true := by
  unfold accepts at h
  cases hkept : a.keptHash with
  | error f =>
    rw [hkept] at h
    cases h
  | ok found =>
    rw [hkept] at h
    cases found with
    | none => cases h
    | some kept => exact ⟨kept, rfl, Except.ok.inj h⟩

/-- Who is let in shows the configured name and a password that belongs to it. -/
theorem of_authenticate {a : Account} {shown : Option Credentials} {name : Text}
    (h : a.authenticate shown = .ok name) :
    ∃ c kept, shown = some c ∧ a.username = some c.username ∧ c.username ≠ []
      ∧ a.keptHash = .ok (some kept) ∧ Password.verify c.password kept = true := by
  unfold authenticate at h
  split at h
  -- both credentials and an account are there; the name is compared first, then the password
  · next c configured hconfigured =>
    split at h
    · cases h
    · split at h
      · cases h
      · next hsame =>
        split at h
        · next haccepts =>
          have hname : c.username = configured := not_not.mp hsame
          obtain ⟨husername, hne⟩ := Option.filter_eq_some_iff.mp hconfigured
          obtain ⟨kept, hkept, hverify⟩ := exists_kept_of_accepts haccepts
          rw [← hname] at husername hne
          exact ⟨c, kept, rfl, husername, by simpa using hne, hkept, hverify⟩
        · cases h
        · cases h
  · cases h

end Admin.Account

namespace Http

/-- The request shows credentials of the Basic scheme with the configured name, which is not empty,
and with a password that the kept hash accepts. -/
def Authorized (s : Settings) (r : Request) : Prop :=
  ∃ c kept, r.credentials? = .ok (some c) ∧ s.adminUsername = some c.username ∧ c.username ≠ []
    ∧ s.admin.keptHash = .ok (some kept) ∧ Password.verify c.password kept = true

/-- There is no name of an admin, or neither a hash nor a password; empty ones count for nothing. -/
def NoAdmin (s : Settings) : Prop :=
  Admin.given s.adminUsername = none
    ∨ Admin.given s.adminPasswordHash = none ∧ Admin.given s.adminPasswordPlain = none

instance (s : Settings) : Decidable (NoAdmin s) := inferInstanceAs (Decidable (_ ∨ _))

theorem not_authorized_of_noAdmin {s : Settings} (h : NoAdmin s) (r : Request) :
    ¬ Authorized s r := by
  rintro ⟨c, kept, -, hname, hne, hkept, -⟩
  rcases h with hnobody | ⟨hhash, hplain⟩
  · rw [hname] at hnobody
    unfold Admin.given at hnobody
    rw [Option.filter_some_pos (by simpa using hne)] at hnobody
    cases hnobody
  · have hnone : s.admin.keptHash = .ok none := by
      unfold Admin.Account.keptHash Settings.admin
      dsimp only
      rw [hhash, hplain]
    rw [hnone] at hkept
    cases hkept

/-- Credentials are refused in one way. -/
theorem refusal_of_credentials? {r : Request} {refusal : Refusal}
    (h : r.credentials? = .error refusal) : refusal = unreadableCredentials := by
  -- credentials are read in two steps, each of which refuses in the same words
  have hread : ∀ encoded, readCredentials encoded = .error refusal →
      refusal = unreadableCredentials := by
    intro encoded hunread
    unfold readCredentials at hunread
    split at hunread
    · cases hunread
      rfl
    · dsimp only at hunread
      split at hunread
      · cases hunread
      · cases hunread
        rfl
  unfold Request.credentials? at h
  dsimp only at h
  split at h
  · cases hencoded : readCredentials _ with
    | error fault =>
      rw [hencoded] at h
      cases h
      exact hread _ hencoded
    | ok c =>
      rw [hencoded] at h
      cases h
  · cases h

/-! ## Routes -/

/-- Is the route for the admin alone? -/
def Route.forAdmin : Route → Bool
  | usage | createIssuer | listIssuers | updateIssuer => true
  | identity | ownUsage | health => false

/-- Does the route write to the store? -/
def Route.writes : Route → Bool
  | createIssuer | updateIssuer => true
  | identity | ownUsage | usage | listIssuers | health => false

theorem Route.forAdmin_of_writes {route : Route} (h : route.writes = true) :
    route.forAdmin = true := by
  cases route <;> first | rfl | cases h

namespace App

/-! ## The admin's door -/

/-- The admin's door: it opens to the admin and refuses everyone else. -/
theorem requireAdmin_cases (s : Settings) (r : Request) :
    requireAdmin s r = .ok () ∧ Authorized s r
      ∨ ∃ f, requireAdmin s r = .error f ∧ 400 ≤ f.response.status := by
  unfold requireAdmin
  cases hshown : r.credentials? with
  | error refusal =>
    refine Or.inr ⟨.refused refusal, rfl, ?_⟩
    rw [refusal_of_credentials? hshown]
    exact (by decide : 400 ≤ 401)
  | ok shown =>
    dsimp only [Except.mapError, bind, Except.bind]
    cases hname : s.admin.authenticate shown with
    | ok name =>
      obtain ⟨c, kept, rfl, hproof⟩ := Admin.Account.of_authenticate hname
      exact Or.inl ⟨rfl, c, kept, hshown, hproof⟩
    | error d =>
      -- each denial carries its own status, a fault that of a crash
      cases d with
      | required => exact Or.inr ⟨_, rfl, (by decide : 400 ≤ 401)⟩
      | failed => exact Or.inr ⟨_, rfl, (by decide : 400 ≤ 401)⟩
      | fault f => exact Or.inr ⟨_, rfl, (by decide : 400 ≤ 500)⟩

/-! ## Behind the gate -/

/-- **An admin's route does nothing for who is refused.** -/
theorem perform_of_refused {app : App} {r : Request} {f : Failure}
    (h : requireAdmin app.settings r = .error f) {route : Route} (hroute : route.forAdmin = true)
    (l : Limiter) (now : Int) (param : Text) (p : Payload) (issuer : Option Identity) :
    app.perform l now route param r p issuer = ⟨app, [], .error f⟩ := by
  -- each of the four routes asks for the administrator before anything else
  cases route with
  | usage =>
    show (⟨app, [], usage app.settings l now r⟩ : Step App Answer) = _
    unfold usage
    rw [h]
    rfl
  | createIssuer =>
    show app.createIssuer now r p = _
    unfold createIssuer
    rw [h]
  | listIssuers =>
    show app.listIssuers now r = _
    unfold listIssuers
    rw [h]
  | updateIssuer =>
    show app.updateIssuer now r param p = _
    unfold updateIssuer
    rw [h]
  | identity => cases hroute
  | ownUsage => cases hroute
  | health => cases hroute

/-- No route changes anything but the store and the source of random bytes, and only a writing one
changes those. -/
theorem state_perform (app : App) (l : Limiter) (now : Int) (route : Route) (param : Text)
    (r : Request) (p : Payload) (issuer : Option Identity) :
    ∃ store mint, (app.perform l now route param r p issuer).state
        = { app with store := store, mint := mint }
      ∧ (route.writes = false → store = app.store) := by
  -- two routes write; the others hand the application back
  cases route with
  | createIssuer =>
    show ∃ store mint, (app.createIssuer now r p).state = _ ∧ _
    unfold createIssuer
    split
    · exact ⟨app.store, app.mint, rfl, fun _ => rfl⟩
    · split
      · exact ⟨app.store, app.mint, rfl, fun _ => rfl⟩
      · exact ⟨_, _, rfl, fun h => by cases h⟩
  | listIssuers =>
    show ∃ store mint, (app.listIssuers now r).state = _ ∧ _
    unfold listIssuers
    split
    · exact ⟨app.store, app.mint, rfl, fun _ => rfl⟩
    · exact ⟨app.store, app.mint, rfl, fun _ => rfl⟩
  | updateIssuer =>
    show ∃ store mint, (app.updateIssuer now r param p).state = _ ∧ _
    unfold updateIssuer
    split
    · exact ⟨app.store, app.mint, rfl, fun _ => rfl⟩
    · split
      · exact ⟨app.store, app.mint, rfl, fun _ => rfl⟩
      · exact ⟨_, app.mint, rfl, fun h => by cases h⟩
  | identity => exact ⟨app.store, app.mint, rfl, fun _ => rfl⟩
  | ownUsage => exact ⟨app.store, app.mint, rfl, fun _ => rfl⟩
  | usage => exact ⟨app.store, app.mint, rfl, fun _ => rfl⟩
  | health => exact ⟨app.store, app.mint, rfl, fun _ => rfl⟩

/-- **Who changes the store behind the gate** is the admin, on a route that writes. -/
theorem store_perform_of_ne {app : App} {l : Limiter} {now : Int} {route : Route} {param : Text}
    {r : Request} {p : Payload} {issuer : Option Identity}
    (h : (app.perform l now route param r p issuer).state.store ≠ app.store) :
    route.writes = true ∧ Authorized app.settings r := by
  cases hwrites : route.writes with
  | false =>
    obtain ⟨store, mint, hstate, hkept⟩ := state_perform app l now route param r p issuer
    rw [hstate] at h
    exact absurd (hkept hwrites) h
  | true =>
    rcases requireAdmin_cases app.settings r with ⟨-, hauthorized⟩ | ⟨f, hf, -⟩
    · exact ⟨rfl, hauthorized⟩
    · rw [perform_of_refused hf (Route.forAdmin_of_writes hwrites)] at h
      exact absurd rfl h

/-! ## Through the gate -/

theorem status_denied (d : Gate.Denial) : 400 ≤ (denied d).status := by
  cases d with
  | unavailable => exact (by decide : 400 ≤ 503)
  | unknownKey => exact (by decide : 400 ≤ 401)
  | exceeded headers => exact (by decide : 400 ≤ 429)
  | fault f => exact (by decide : 400 ≤ 500)

/-- What becomes of a request that is served: an error before or at the gate, which changes the
service at most, or the work of its route. -/
theorem serve_cases (app : App) (now : Int) (route : Route) (param : Text) (r : Request)
    (p : Payload) :
    ∃ service,
      (app.serve now route param r p).state = { app with service := service }
          ∧ 400 ≤ (app.serve now route param r p).answer.status
        ∨ ∃ (l : Limiter) (issuer : Option Identity) (quota : Option QuotaHeaders),
          let x := App.perform { app with service := service } l now route param r p issuer
          (app.serve now route param r p).state = x.state
            ∧ (app.serve now route param r p).answer = respond x.answer quota := by
  unfold serve
  split
  · exact ⟨app.service, Or.inl ⟨rfl, (by decide : 400 ≤ 500)⟩⟩
  · dsimp only
    split
    · next d _ => exact ⟨_, Or.inl ⟨rfl, status_denied d⟩⟩
    · next admission _ => exact ⟨_, Or.inr ⟨_, admission.issuer, admission.headers, rfl, rfl⟩⟩

theorem settings_serve (app : App) (now : Int) (route : Route) (param : Text) (r : Request)
    (p : Payload) : (app.serve now route param r p).state.settings = app.settings := by
  obtain ⟨service, ⟨hstate, -⟩ | ⟨l, issuer, quota, hstate, -⟩⟩ :=
    serve_cases app now route param r p
  · rw [hstate]
  · obtain ⟨store, mint, hperformed, -⟩ :=
      state_perform { app with service := service } l now route param r p issuer
    rw [hstate, hperformed]

/-- The gate writes nothing, so what is changed is changed behind it. -/
theorem store_serve_of_ne {app : App} {now : Int} {route : Route} {param : Text} {r : Request}
    {p : Payload} (h : (app.serve now route param r p).state.store ≠ app.store) :
    route.writes = true ∧ Authorized app.settings r := by
  obtain ⟨service, ⟨hstate, -⟩ | ⟨l, issuer, quota, hstate, -⟩⟩ :=
    serve_cases app now route param r p
  · rw [hstate] at h
    exact absurd rfl h
  · rw [hstate] at h
    -- the gate left the settings as they were
    have hbehind := store_perform_of_ne h
    exact hbehind

/-- Whoever is refused is answered by a status of failure, at the gate or at the route. -/
theorem status_serve_of_refused {app : App} {r : Request} {f : Failure}
    (h : requireAdmin app.settings r = .error f) (hf : 400 ≤ f.response.status) {route : Route}
    (hroute : route.forAdmin = true) (now : Int) (param : Text) (p : Payload) :
    400 ≤ (app.serve now route param r p).answer.status := by
  obtain ⟨service, ⟨-, hstatus⟩ | ⟨l, issuer, quota, -, hanswer⟩⟩ :=
    serve_cases app now route param r p
  · exact hstatus
  · have hdoor : requireAdmin ({ app with service := service } : App).settings r = .error f := h
    rw [hanswer, perform_of_refused hdoor hroute]
    cases f with
    | refused refusal => exact hf
    | invalid issues => exact hf
    | crashed c => exact hf

/-! ## Requests -/

theorem settings_handle (app : App) (now : Int) (r : Request) :
    (app.handle now r).state.settings = app.settings := by
  cases h : arrival? r with
  | none => rw [state_handle_of_astray app now h]
  | some route =>
    obtain ⟨param, p, hroute, hbody⟩ := of_arrival? h
    rw [state_handle_of_readable hroute hbody, settings_serve]

/-- **A request that changes the store** met a route that writes, and is authorized. -/
theorem store_handle_of_ne {app : App} {now : Int} {r : Request}
    (h : (app.handle now r).state.store ≠ app.store) :
    ∃ route param, Route.find r.method r.path r.query = .route route param
      ∧ route.writes = true ∧ Authorized app.settings r := by
  cases harrival : arrival? r with
  | none =>
    rw [state_handle_of_astray app now harrival] at h
    exact absurd rfl h
  | some route =>
    obtain ⟨param, p, hroute, hbody⟩ := of_arrival? harrival
    rw [state_handle_of_readable hroute hbody] at h
    exact ⟨route, param, hroute, store_serve_of_ne h⟩

/-- **What the admin alone may see or do is answered by an error** to everyone else. -/
theorem status_of_unauthorized {app : App} {r : Request} (h : ¬ Authorized app.settings r)
    {route : Route} {param : Text}
    (hroute : Route.find r.method r.path r.query = .route route param)
    (hadmin : route.forAdmin = true) (now : Int) :
    400 ≤ (app.handle now r).answer.status := by
  -- a body that is not read is answered before anybody is asked for
  cases hbody : payload route r with
  | error fault =>
    rw [(handle_of_unreadable app now hroute hbody).2]
    cases fault with
    | malformed => exact (by decide : 400 ≤ 422)
    | unreadable => exact (by decide : 400 ≤ 400)
  | ok p =>
    obtain ⟨-, hauthorized⟩ | ⟨f, hf, hstatus⟩ := requireAdmin_cases app.settings r
    · exact absurd hauthorized h
    · have hserved := status_serve_of_refused hf hstatus hadmin now param p
      unfold handle
      rw [preflight?_eq_none hroute]
      dsimp only
      rw [dispatch_of_readable hroute hbody]
      split <;> exact hserved

/-! ## Runs -/

theorem settings_after (first : App) (calls : List Call) :
    (Run.after step first calls).settings = first.settings := by
  refine Run.after_invariant (fun app : App => app.settings = first.settings)
    (fun app c hsettings => ?_) rfl calls
  obtain ⟨now, action⟩ := c
  cases action with
  | request r => exact (settings_handle app now r).trans hsettings
  | edit store => exact hsettings

/-- The store that somebody puts in place of the application's. -/
def Call.edited? (c : Call) : Option Issuer.Store :=
  match c.action with
  | .edit store => some store
  | .request _ => none

/-- **Requests without an admin's among them leave the store as it was put there last.** -/
theorem store_after_of_unauthorized {first : App} {calls : List Call}
    (h : ∀ c ∈ calls, ∀ r, c.action = .request r → ¬ Authorized first.settings r) :
    (Run.after step first calls).store
      = (calls.filterMap Call.edited?).getLast?.getD first.store := by
  induction calls using List.reverseRecOn with
  | nil => rfl
  | append_singleton calls c ih =>
    have hbefore := ih fun d hd => h d (List.mem_append_left _ hd)
    rw [Run.after_concat, List.filterMap_append]
    obtain ⟨now, action⟩ := c
    cases action with
    | request r =>
      show ((Run.after step first calls).handle now r).state.store = _
      rw [show List.filterMap Call.edited? [⟨now, .request r⟩] = [] from rfl, List.append_nil,
        ← hbefore]
      -- had it changed the store, it would be an admin's by the settings of the start
      by_contra hne
      obtain ⟨-, -, -, -, hauthorized⟩ := store_handle_of_ne hne
      rw [settings_after] at hauthorized
      exact h ⟨now, .request r⟩ (by simp) r rfl hauthorized
    | edit store =>
      show store = _
      rw [show List.filterMap Call.edited? [⟨now, .edit store⟩] = [store] from rfl,
        List.getLast?_concat]
      rfl

/-- **No issuer is changed without the admin's credentials**, in each state that an application can
reach, whether it is started or not.

* A request that changes the store is one to create or to update an issuer, and shows the name and
  the password of the configured admin.
* Where nobody is configured as admin, no request changes the store, and neither the list of issuers
  nor the usage report is ever answered as asked. -/
theorem store_of_request (first : App) (past : List Call) (now : Int) (r : Request) :
    let app := Run.after step first past
    ((app.handle now r).state.store ≠ app.store →
      (∃ param,
        r.method = "POST"
            ∧ Route.find r.method r.path r.query = .route .createIssuer param
          ∨ r.method = "PATCH"
            ∧ Route.find r.method r.path r.query = .route .updateIssuer param)
        ∧ Authorized first.settings r)
      ∧ (NoAdmin first.settings →
        (app.handle now r).state.store = app.store
          ∧ ∀ route param, Route.find r.method r.path r.query = .route route param →
            route = .listIssuers ∨ route = .usage → (app.handle now r).answer.status ≠ 200) := by
  intro app
  have hsettings : app.settings = first.settings := settings_after first past
  refine ⟨fun hchanged => ?_, fun hnobody => ⟨?_, fun route param hroute hread => ?_⟩⟩
  -- a changed store was changed by a route that writes, for the administrator
  · obtain ⟨route, param, hroute, hwrites, hauthorized⟩ := store_handle_of_ne hchanged
    rw [hsettings] at hauthorized
    refine ⟨⟨param, ?_⟩, hauthorized⟩
    have hmethod := (found_of_find hroute).1
    cases route with
    | createIssuer => exact Or.inl ⟨hmethod.symm, hroute⟩
    | updateIssuer => exact Or.inr ⟨hmethod.symm, hroute⟩
    | identity => cases hwrites
    | ownUsage => cases hwrites
    | usage => cases hwrites
    | listIssuers => cases hwrites
    | health => cases hwrites
  · by_contra hchanged
    obtain ⟨-, -, -, -, hauthorized⟩ := store_handle_of_ne hchanged
    rw [hsettings] at hauthorized
    exact not_authorized_of_noAdmin hnobody r hauthorized
  -- without an administrator the door stays closed to reading as well
  · have hunauthorized : ¬ Authorized app.settings r := by
      rw [hsettings]
      exact not_authorized_of_noAdmin hnobody r
    have hadmin : route.forAdmin = true := by
      rcases hread with rfl | rfl <;> rfl
    have hstatus := status_of_unauthorized hunauthorized hroute hadmin now
    omega

/-! ## A request of the admin

The store holds one issuer. The admin is `root`, with the password `pw` as it is kept after a single
round. -/

def settingsOfRoot : Settings where
  adminUsername := some "root"
  adminPasswordHash := some
    (Password.encode 1 [0x73] (Pbkdf2.derive (Utf8.encode "pw") [0x73] 1))

def appOfRoot : App := start settingsOfRoot storeOfOne { source := .counting } 0

/-- A request of `root` to make the issuer `a` a paid one. -/
def upgradeByRoot : Request where
  method := "PATCH"
  path := "/api/admin/issuers/a"
  headers := [("authorization", "Basic cm9vdDpwdw=="), ("content-type", "application/json")]
  body := Utf8.encode "\x7b\"tier\":\"paid\"\x7d"

/-- The tiers of the issuers in a store, as it lists them. -/
def tiers (s : Issuer.Store) : Option (List Tier) :=
  (s.list (Calendar.ofMilliseconds 5)).2.toOption.map (·.map (·.tier))

/-- Where `root` is admin the request changes the store and shows who sends it; where nobody is, it
changes nothing. -/
theorem store_of_request_of_root :
    tiers appOfRoot.store = some [.free]
      ∧ tiers (appOfRoot.handle 5 upgradeByRoot).state.store = some [.paid]
      ∧ Authorized settingsOfRoot upgradeByRoot
      ∧ NoAdmin appOfOne.settings
      ∧ (appOfOne.handle 5 upgradeByRoot).state.store = appOfOne.store := by
  have hbefore : tiers appOfRoot.store = some [.free] := by decide +kernel
  have hafter : tiers (appOfRoot.handle 5 upgradeByRoot).state.store = some [.paid] := by
    decide +kernel
  have hchanged : (appOfRoot.handle 5 upgradeByRoot).state.store ≠ appOfRoot.store := by
    intro hsame
    rw [hsame, hbefore] at hafter
    cases hafter
  have hnobody : NoAdmin appOfOne.settings := by decide
  have hauthority := (store_of_request appOfRoot [] 5 upgradeByRoot).1
  have hnothing := (store_of_request appOfOne [] 5 upgradeByRoot).2
  dsimp only [Run.after_nil] at hauthority hnothing
  exact ⟨hbefore, hafter, (hauthority hchanged).2, hnobody, (hnothing hnobody).1⟩

end App

end Http

end IssuerGate
