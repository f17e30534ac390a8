import IssuerGate.Proofs.Http.Authority
import IssuerGate.Proofs.Issuer.Atomicity

/-!
# IssuerGate — what a failed request leaves

The store is written in the middle of a request, and the answer is made of what was written. An
issuer that is created can always be shown. One that is changed may have come from a file that
others wrote, with values that an answer does not show: then the request fails after the change was
made.

* **`showItem_of_encodable`** — a record is shown if it has a public view; that it can be sent is no
  question for what has been written.
* **`store_createIssuer_of_failed`**, **`store_updateIssuer_of_failed`** — what a failed request of
  each kind leaves.
* **`store_of_failed`** — a request that is not answered as asked leaves the issuers as they were,
  or it has changed one that cannot be shown.
* **`store_changed_of_failed`** — and there are such requests.
-/

namespace IssuerGate.Http

/-! ## Bodies -/

namespace Payload

theorem exists_of_field_nil {α : Type} {ms : List (Text × Json)} {name : Text}
    {default : Field.Checked α} {check : Json → Field.Checked α}
    (h : (field ms name default check).2 = []) : ∃ a, (field ms name default check).1 = .ok a := by
  unfold field at h ⊢
  dsimp only at h ⊢
  split
  · exact ⟨_, rfl⟩
  · next hfault =>
    rw [hfault] at h
    cases h

/-- An issuer is created under a name. -/
theorem exists_name_of_draft {p : Payload} {d : Issuer.Draft} (h : p.draft = .ok d) :
    ∃ t, d.name = some t := by
  unfold draft at h
  cases hms : p.members with
  | error issues =>
    rw [hms] at h
    cases h
  | ok ms =>
    rw [hms] at h
    dsimp only [bind, Except.bind] at h
    split at h
    · next hissues =>
      obtain rfl := Except.ok.inj h
      -- a draft has no issues, those of the name included, which come first
      simp only [List.isEmpty_iff, List.append_eq_nil_iff] at hissues
      obtain ⟨t, ht⟩ := exists_of_field_nil hissues.1.1.1.1.1
      exact ⟨t, congrArg Except.toOption ht⟩
    · cases h

end Payload

namespace App

/-! ## Records in answers -/

/-- A record whose fields are texts has a public view. -/
theorem item_of_texts {r : Issuer.Record} (hroom : r.overrun? showRoom = none)
    (hgiven : ∀ v ∈ [r.id, r.name, r.publicKey, r.createdAt], isText v = true)
    (hoptional : ∀ v ∈ [r.description, r.website, r.contactEmail], isTextOrNull v = true) :
    ∃ ms, item r = .ok ms := by
  unfold item
  rw [hroom, List.all_eq_true.mpr hgiven, List.all_eq_true.mpr hoptional]
  exact ⟨_, rfl⟩

theorem isSendable_of_isEncodable {v : Json} (h : v.isEncodable = true) : isSendable v = true := by
  cases v with
  | str t => exact h
  | null => rfl
  | bool b => rfl
  | int i => rfl
  | num x => rfl
  | arr vs => rfl
  | obj ms => rfl

/-- A public view shows fields of the record, and nothing else. -/
theorem mem_members_of_item {r : Issuer.Record} {ms : List (Text × Json)} (h : item r = .ok ms) :
    ∀ m ∈ ms, m ∈ r.members := by
  unfold item at h
  split at h
  · cases h
  · split at h
    -- only the hash of the key is left out
    · have hview : r.members.eraseIdx 5 = ms := Except.ok.inj h
      intro m hm
      rw [← hview] at hm
      exact List.mem_of_mem_eraseIdx hm
    · cases h

/-- **A record that an encoding carries is shown if it has a public view.** -/
theorem showItem_of_encodable {r : Issuer.Record} (hcoded : ∀ m ∈ r.members, m.2.isEncodable = true)
    {ms : List (Text × Json)} (h : item r = .ok ms) (status : Nat) (further : List (Text × Json)) :
    showItem status r further = .ok (status, .obj (ms ++ further)) := by
  have hsendable : (ms.map (·.2)).all isSendable = true := by
    rw [List.all_map, List.all_eq_true]
    exact fun m hm => isSendable_of_isEncodable (hcoded m (mem_members_of_item h m hm))
  unfold showItem
  rw [h]
  dsimp only
  unfold send
  rw [if_pos hsendable]

/-- What is created under a name, and can be written, is shown. -/
theorem showItem_ofDraft {d : Issuer.Draft} {t : Text} (hname : d.name = some t)
    (issued : Mint.Issued) (createdAt : Text)
    (hcoded : ∀ m ∈ (Issuer.Record.ofDraft d issued createdAt).members, m.2.isEncodable = true)
    (status : Nat) (further : List (Text × Json)) :
    ∃ v, showItem status (.ofDraft d issued createdAt) further = .ok (status, v) := by
  have hoptional (t : Option Text) : isTextOrNull (Issuer.ofText? t) = true := by cases t <;> rfl
  obtain ⟨ms, hms⟩ := item_of_texts (r := .ofDraft d issued createdAt)
    (Issuer.Record.overrun?_ofDraft d issued createdAt (by decide))
    (by
      unfold Issuer.Record.ofDraft
      dsimp only
      rw [hname]
      simp only [List.forall_mem_cons, List.not_mem_nil, false_implies, implies_true, and_true]
      exact ⟨rfl, rfl, rfl, rfl⟩)
    (by
      simp only [List.forall_mem_cons, List.not_mem_nil, false_implies, implies_true, and_true]
      exact ⟨hoptional _, hoptional _, hoptional _⟩)
  exact ⟨_, showItem_of_encodable hcoded hms status further⟩

/-! ## Behind the gate -/

/-- A route answered as asked. -/
def Answered (answer : Answer) : Prop := ∃ status v, answer = .ok (status, v) ∧ status / 100 = 2

variable {app : App} {f : Issuer.File} (now : Int) (r : Request) (p : Payload)

/-- **An issuer that is created is shown**, so a request to create one that fails leaves the issuers
as they were. -/
theorem store_createIssuer_of_failed (hfile : app.store = .file f)
    (h : ¬ Answered (app.createIssuer now r p).answer) :
    (app.createIssuer now r p).state.store = app.store := by
  unfold createIssuer at h ⊢
  split
  · rfl
  · next hdoor =>
    rw [hdoor] at h
    dsimp only at h
    split
    · rfl
    · next draft hdraft =>
      rw [hdraft] at h
      dsimp only at h ⊢
      rw [hfile] at h ⊢
      rcases Issuer.Store.create_file_cases app.mint (Calendar.ofMilliseconds now) draft f with
        ⟨log, e, hfail⟩ | ⟨log, rs, g, -, hwrite, hdone⟩
      · rw [hfail]
      -- once the record is stored, its item has a name and is shown: the answer did not fail
      · rw [hdone] at h
        obtain ⟨t, hname⟩ := Payload.exists_name_of_draft hdraft
        have hcoded := Issuer.File.encodable_of_write hwrite _ (List.mem_concat_self ..)
        obtain ⟨v, hv⟩ := showItem_ofDraft hname _ _ hcoded 201 [("api_key",
          .str (app.mint.issue draft.publicKey).2.apiKey)]
        exact absurd ⟨201, v, hv, rfl⟩ h

/-- **An issuer that is changed may not be shown**: then the request to change it fails, and leaves
it changed. -/
theorem store_updateIssuer_of_failed (hfile : app.store = .file f) (param : Text)
    (h : ¬ Answered (app.updateIssuer now r param p).answer) :
    (app.updateIssuer now r param p).state.store = app.store
      ∨ ∃ change record c, p.change = .ok change
        ∧ (app.store.update (Calendar.ofMilliseconds now) param change).answer = .ok (some record)
        ∧ item record = .error c
        ∧ (app.updateIssuer now r param p).state.store
          = (app.store.update (Calendar.ofMilliseconds now) param change).state
        ∧ (app.updateIssuer now r param p).answer = .error (.crashed c) := by
  unfold updateIssuer at h ⊢
  split
  · exact Or.inl rfl
  · next hdoor =>
    rw [hdoor] at h
    dsimp only at h
    split
    · exact Or.inl rfl
    · next change hchange =>
      rw [hchange] at h
      dsimp only at h ⊢
      rw [hfile] at h ⊢
      rcases Issuer.Store.update_file_cases (Calendar.ofMilliseconds now) param change f with
        ⟨log, e, hfail⟩ | ⟨log, rs, -, -, hnone⟩ | ⟨log, rs, q, g, -, hfind, hwrite, hdone⟩
      · rw [hfail]
        exact Or.inl rfl
      · rw [hnone]
        exact Or.inl rfl
      · rw [hdone] at h ⊢
        dsimp only at h ⊢
        -- the change is stored by now; the item of the record, as the file had it, may still fail
        cases hitem : item (q.apply change) with
        | error c =>
          refine Or.inr ⟨change, q.apply change, c, hchange, congrArg Step.answer hdone, hitem,
            congrArg Step.state hdone.symm, ?_⟩
          unfold showItem
          rw [hitem]
        | ok ms =>
          have hcoded :=
            Issuer.File.encodable_of_write hwrite _ (Issuer.mem_changeFirst_of_find? hfind change)
          exact absurd ⟨200, _, showItem_of_encodable hcoded hitem 200 [], rfl⟩ h

/-- What a route does that is not answered as asked: nothing to the issuers, or a change of one that
cannot be shown. -/
theorem store_perform_of_failed (hfile : app.store = .file f) (l : Limiter) (route : Route)
    (param : Text) (issuer : Option Identity)
    (h : ¬ Answered (app.perform l now route param r p issuer).answer) :
    let x := app.perform l now route param r p issuer
    x.state.store = app.store
      ∨ route = .updateIssuer ∧ Authorized app.settings r ∧ ∃ change record c, p.change = .ok change
        ∧ (app.store.update (Calendar.ofMilliseconds now) param change).answer = .ok (some record)
        ∧ item record = .error c
        ∧ x.state.store = (app.store.update (Calendar.ofMilliseconds now) param change).state
        ∧ x.answer = .error (.crashed c) := by
  intro x
  -- a changed store leaves the two routes that write, and of those only the change fails late
  by_cases hkept : x.state.store = app.store
  · exact Or.inl hkept
  · obtain ⟨hwrites, hauthorized⟩ := store_perform_of_ne hkept
    cases route with
    | createIssuer => exact Or.inl (store_createIssuer_of_failed now r p hfile h)
    | updateIssuer =>
      rcases store_updateIssuer_of_failed now r p hfile param h with hsame | hchanged
      · exact Or.inl hsame
      · exact Or.inr ⟨rfl, hauthorized, hchanged⟩
    | identity => cases hwrites
    | ownUsage => cases hwrites
    | usage => cases hwrites
    | listIssuers => cases hwrites
    | health => cases hwrites

theorem status_respond_of_answered {answer : Answer} (h : Answered answer)
    (quota : Option QuotaHeaders) : (respond answer quota).status / 100 = 2 := by
  obtain ⟨status, v, rfl, hstatus⟩ := h
  exact hstatus

/-! ## Requests -/

/-- **A request that fails leaves the issuers as they were, unless it has changed one that cannot be
shown**, whatever is in the file. Then an admin asked for the change, which was made, and the answer
is a crash over what became of the record. -/
theorem store_of_failed (app : App) (f : Issuer.File) (hfile : app.store = .file f) (now : Int)
    (r : Request) (hfailed : (app.handle now r).answer.status / 100 ≠ 2) :
    let x := app.handle now r
    x.state.store = app.store
      ∨ ∃ param p change record c, Route.find r.method r.path r.query = .route .updateIssuer param
        ∧ payload .updateIssuer r = .ok p ∧ p.change = .ok change ∧ Authorized app.settings r
        ∧ (app.store.update (Calendar.ofMilliseconds now) param change).answer = .ok (some record)
        ∧ item record = .error c
        ∧ x.state.store = (app.store.update (Calendar.ofMilliseconds now) param change).state
        ∧ x.answer.status = 500 ∧ x.answer.crash = some c := by
  intro x
  -- the store changes only behind the door and the gate, where the route answers
  cases harrival : arrival? r with
  | none => exact Or.inl (congrArg App.store (state_handle_of_astray app now harrival))
  | some route =>
    obtain ⟨param, p, hroute, hbody⟩ := of_arrival? harrival
    obtain ⟨hstatus, -, hcrash⟩ := shown_handle_of_readable app now hroute hbody
    have hstate : (app.handle now r).state = (app.serve now route param r p).state :=
      state_handle_of_readable hroute hbody
    obtain ⟨service, ⟨hserved, -⟩ | ⟨l, issuer, quota, hserved, hanswer⟩⟩ :=
      serve_cases app now route param r p
    · refine Or.inl ?_
      show (app.handle now r).state.store = app.store
      rw [hstate, hserved]
    · rw [hserved] at hstate
      rw [hanswer] at hstatus hcrash
      have hunanswered : ¬ Answered
          (App.perform { app with service := service } l now route param r p issuer).answer := by
        intro hok
        exact hfailed (by rw [hstatus]; exact status_respond_of_answered hok quota)
      have hbehind : ({ app with service := service } : App).store = .file f := hfile
      have hleft := store_perform_of_failed now r p hbehind l route param issuer hunanswered
      rcases hleft with hsame | ⟨rfl, hauthorized, change, record, c, hchange, hupdate, hitem,
        hstore, hfault⟩
      · exact Or.inl ((congrArg App.store hstate).trans hsame)
      · rw [hfault] at hstatus hcrash
        exact Or.inr ⟨param, p, change, record, c, hroute, hbody, hchange, hauthorized, hupdate,
          hitem, (congrArg App.store hstate).trans hstore, hstatus, hcrash⟩

/-! ## A name that is a number

Somebody else wrote the only record of the file. -/

/-- An issuer whose name is no text. -/
def numberedText : List Char :=
  "\x7b\"id\": \"a\", \"name\": 5, \"public_key\": \"p\"\x7d\n".toList

def numberedFile : Issuer.File := ⟨"issuers.jsonl", some (.text numberedText)⟩

def appOfNumbered : App := start settingsOfRoot (.file numberedFile) { source := .counting } 0

theorem start_numberedFile :
    start settingsOfRoot (.file ⟨"issuers.jsonl", some (.text numberedText)⟩)
      { source := .counting } 0 = appOfNumbered := rfl

/-- The tier that is stored is changed by a request that is answered 500. -/
theorem tiers_appOfNumbered :
    tiers appOfNumbered.store = some [.free]
      ∧ tiers (appOfNumbered.handle 5 upgradeByRoot).state.store = some [.paid]
      ∧ (appOfNumbered.handle 5 upgradeByRoot).answer.status = 500 := by
  decide +kernel

/-- The request of the admin fails over the record that it has changed. -/
theorem store_of_failed_of_numbered :
    (appOfNumbered.handle 5 upgradeByRoot).answer.status / 100 ≠ 2
      ∧ Authorized settingsOfRoot upgradeByRoot
      ∧ ∃ c, (appOfNumbered.handle 5 upgradeByRoot).answer.crash = some c := by
  obtain ⟨hbefore, hafter, hstatus⟩ := tiers_appOfNumbered
  have hfailed : (appOfNumbered.handle 5 upgradeByRoot).answer.status / 100 ≠ 2 := by
    rw [hstatus]
    decide
  rcases store_of_failed appOfNumbered numberedFile rfl 5 upgradeByRoot hfailed with
    hsame | ⟨param, p, change, record, c, -, -, -, hauthorized, -, -, -, -, hcrash⟩
  · rw [hsame, hbefore] at hafter
    cases hafter
  · exact ⟨hfailed, hauthorized, c, hcrash⟩

/-- The request meets the route for changing the issuer `a`. -/
theorem find_upgradeByRoot :
    Route.find upgradeByRoot.method upgradeByRoot.path upgradeByRoot.query
      = .route .updateIssuer "a" := by
  decide +kernel

/-- **A failed request may have changed an issuer**: it is not so that whenever a request to create
or to change one fails, the records read from the file after it are those read before it. -/
theorem store_changed_of_failed :
    ¬ ∀ (settings : Settings) (path : Text) (text : List Char) (mint : Mint) (opened now : Int)
      (r : Request) (route : Route) (param : Text),
      Route.find r.method r.path r.query = .route route param → route.writes = true →
      let app := start settings (.file ⟨path, some (.text text)⟩) mint opened
      (app.handle now r).answer.status / 100 ≠ 2 →
      ∀ later, ((app.handle now r).state.store.list later).2 = (app.store.list later).2 := by
  intro hkept
  obtain ⟨hbefore, hafter, hstatus⟩ := tiers_appOfNumbered
  have hfailed : (appOfNumbered.handle 5 upgradeByRoot).answer.status / 100 ≠ 2 := by
    rw [hstatus]
    decide
  have hread := hkept settingsOfRoot "issuers.jsonl" numberedText { source := .counting } 0 5
    upgradeByRoot .updateIssuer "a" find_upgradeByRoot rfl
  dsimp only at hread
  rw [start_numberedFile] at hread
  unfold tiers at hbefore hafter
  rw [hread hfailed, hbefore] at hafter
  cases hafter

end App

end IssuerGate.Http
