import IssuerGate.Directory

/-!
# IssuerGate — what one resolution does

`Directory.resolve` answers from the cache or asks the store. This module takes the two apart, for
any store:

* **`resolve_of_cached`**, **`answer_resolve_of_uncached`** — a valid entry is the answer and nothing
  else happens; without one the answer is what the store says.
* **`ask_eq_ok`**, **`ask_eq_unanswered`** — what it takes for a lookup to answer or to go without an
  answer; **`Unanswered`** lists the five reasons for the latter, the first of which is that no
  encoding carries the key.
* **`resolve_eq_some`**, **`resolve_eq_none`**, **`resolve_eq_unanswered`**, **`resolve_eq_number`** —
  what each answer of a resolution goes back to.
* **`Backed`** — each cached entry goes back to a lookup one lifetime before its end, whatever is
  taken for evidence of a lookup. Resolutions and evictions keep it.
-/

namespace IssuerGate.Directory

variable {d : Directory} {now : Int} {find : Text → Lookup} {key : Text}

/-! ## The two ways to an answer -/

/-- A sweep changes no setting and adds no entry. -/
theorem sweepIfDue_keeps (d : Directory) (now : Int) :
    (d.sweepIfDue now).state.ttlMs = d.ttlMs ∧ (d.sweepIfDue now).state.patience = d.patience
      ∧ ∀ e ∈ (d.sweepIfDue now).state.entries, e ∈ d.entries := by
  unfold sweepIfDue
  split
  · exact ⟨rfl, rfl, fun e he => he⟩
  · exact ⟨rfl, rfl, fun e he => (List.mem_filter.mp he).1⟩

theorem ask_sweepIfDue : (d.sweepIfDue now).state.ask find key = d.ask find key := by
  unfold ask askFor
  rw [(sweepIfDue_keeps d now).2.1]

/-- A key that is held is answered without asking. -/
theorem resolve_of_cached {i : Identity} (h : d.cached? now key = some i) :
    d.resolve now find key = ⟨d, [], ⟨false, .ok (some i)⟩⟩ := by
  unfold resolve
  rw [h]

/-- Any other is answered by what the store is asked. -/
theorem answer_resolve_of_uncached (h : d.cached? now key = none) :
    (d.resolve now find key).answer
      = ⟨(d.ask find key).2.1, (d.ask find key).2.2.map (Option.map Found.identity)⟩ := by
  unfold resolve
  rw [h]
  dsimp only
  rw [ask_sweepIfDue]
  obtain ⟨log, asked, outcome⟩ := d.ask find key
  cases outcome with
  | error e => rfl
  | ok found =>
    cases found with
    | none => rfl
    | some f => rfl

theorem settings_resolve (d : Directory) (now : Int) (find : Text → Lookup) (key : Text) :
    (d.resolve now find key).state.ttlMs = d.ttlMs
      ∧ (d.resolve now find key).state.patience = d.patience := by
  obtain ⟨httl, hpatience, -⟩ := sweepIfDue_keeps d now
  unfold resolve
  split
  · exact ⟨rfl, rfl⟩
  · dsimp only
    split
    · exact ⟨httl, hpatience⟩
    · exact ⟨httl, hpatience⟩
    · exact ⟨httl, hpatience⟩

/-! ## What a lookup says -/

theorem within_eq_ok {l : Lookup} {x : Binary64} {found : Option Found}
    (h : l.within x = .ok found) : l.finding = .ok found := by
  unfold Lookup.within at h
  split at h
  · cases h
  · split at h
    · next hfinding =>
      rw [hfinding, Except.ok.inj h]
    · cases h
    · cases h

/-- A look-up fails because it took too long, by itself or for the time it was given, or by its own
failure. -/
theorem within_eq_error {l : Lookup} {x : Binary64} {e : LookupError} (h : l.within x = .error e) :
    e = .timedOut x ∧ (l.finding = .error .timedOut ∨ l.atOnce = false ∧ isTooBrief x = true)
      ∨ ∃ m, e = .failed m ∧ l.finding = .error (.failed m) := by
  unfold Lookup.within at h
  -- given too brief a time, or timed out, or failed
  split at h
  · next hbrief =>
    cases h
    exact Or.inl ⟨rfl, Or.inr (by simpa using hbrief)⟩
  · split at h
    · cases h
    · next hfinding =>
      cases h
      exact Or.inl ⟨rfl, Or.inl hfinding⟩
    · next m hfinding =>
      cases h
      exact Or.inr ⟨m, rfl, hfinding⟩

/-- A key without a hash is not looked for, whatever time is allowed. -/
theorem ask_of_unencodable {f : Utf8.Unencodable} (hkey : ApiKey.hash key = .error f) :
    d.ask find key = ([], false, .error (.unanswered (.failed f.message))) := by
  unfold ask
  rw [hkey]

theorem ask_of_hash {keyHash : Text} (hkey : ApiKey.hash key = .ok keyHash) :
    d.ask find key = d.askFor find keyHash := by
  unfold ask
  rw [hkey]

/-- A time that is not over at once lets the store be asked. -/
theorem askFor_of_seconds {x : Binary64} (hp : d.patience = .seconds x)
    (hx : x.isNonPositive = false) (keyHash : Text) :
    d.askFor find keyHash
      = ((find keyHash).log, true, ((find keyHash).within x).mapError .unanswered) := by
  simp [askFor, hp, hx]

/-- A time that is over at once and cannot be written ends a lookup with a fault of its own. -/
theorem askFor_of_impatient (hp : d.patience = .beyond true) (keyHash : Text) :
    d.askFor find keyHash = ([], false, .error (.number .tooLarge)) := by
  unfold askFor
  rw [hp]

/-- A lookup that answers was begun, for the hash of the key, and the store said so. -/
theorem ask_eq_ok {found : Option Found} (h : (d.ask find key).2.2 = .ok found) :
    (d.ask find key).2.1 = true
      ∧ ∃ keyHash, ApiKey.hash key = .ok keyHash ∧ (find keyHash).finding = .ok found := by
  cases hkey : ApiKey.hash key with
  | error f =>
    rw [ask_of_unencodable hkey] at h
    cases h
  | ok keyHash =>
    rw [ask_of_hash hkey] at h ⊢
    -- only with time to wait is the store asked, and only an answer in time is one
    cases hp : d.patience with
    | beyond negative => cases negative <;> simp [askFor, hp] at h
    | seconds x =>
      cases hx : x.isNonPositive with
      | true => simp [askFor, hp, hx] at h
      | false =>
        rw [askFor_of_seconds hp hx] at h ⊢
        refine ⟨rfl, keyHash, rfl, ?_⟩
        cases hwithin : (find keyHash).within x with
        | error e =>
          rw [hwithin] at h
          cases h
        | ok f =>
          rw [hwithin] at h
          obtain rfl : f = found := Except.ok.inj h
          exact within_eq_ok hwithin

/-- Why a lookup got no answer: the key has no hash to look for, or the time was over, before or
after the store was asked, or it failed, in the store or in waiting for it. -/
inductive Unanswered (d : Directory) (find : Text → Lookup) (key : Text) :
    Bool → LookupError → Prop where
  | unencodable {f : Utf8.Unencodable} (hkey : ApiKey.hash key = .error f) :
      Unanswered d find key false (.failed f.message)
  | noTime {x : Binary64} (hp : d.patience = .seconds x) (hx : x.isNonPositive = true) :
      Unanswered d find key false (.timedOut x)
  | tooSlow {x : Binary64} {keyHash : Text} (hkey : ApiKey.hash key = .ok keyHash)
      (hp : d.patience = .seconds x)
      (hslow : (find keyHash).finding = .error .timedOut
        ∨ (find keyHash).atOnce = false ∧ isTooBrief x = true) :
      Unanswered d find key true (.timedOut x)
  | failed {m keyHash : Text} (hkey : ApiKey.hash key = .ok keyHash)
      (hfailed : (find keyHash).finding = .error (.failed m)) :
      Unanswered d find key true (.failed m)
  | endless (hp : d.patience = .beyond false) :
      Unanswered d find key false (.failed Binary64.Fault.tooLarge.message)

/-- **A lookup without an answer has one of the reasons.** The cases are those of the question: the
hash of the key, then the time allowed, then what the store says. -/
theorem ask_eq_unanswered {e : LookupError} (h : (d.ask find key).2.2 = .error (.unanswered e)) :
    Unanswered d find key (d.ask find key).2.1 e := by
  cases hkey : ApiKey.hash key with
  | error f =>
    rw [ask_of_unencodable hkey] at h ⊢
    cases h
    exact .unencodable hkey
  | ok keyHash =>
    rw [ask_of_hash hkey] at h ⊢
    -- in the order of the code: the hash, the time to wait, the store
    cases hp : d.patience with
    | beyond negative =>
      cases negative with
      | true => simp [askFor, hp] at h
      | false =>
        simp only [askFor, hp] at h ⊢
        cases h
        exact .endless hp
    | seconds x =>
      cases hx : x.isNonPositive with
      | true =>
        simp only [askFor, hp, hx, if_true] at h ⊢
        cases h
        exact .noTime hp hx
      | false =>
        rw [askFor_of_seconds hp hx] at h ⊢
        cases hwithin : (find keyHash).within x with
        | ok f =>
          rw [hwithin] at h
          cases h
        | error e' =>
          rw [hwithin] at h
          obtain rfl : e' = e := by
            cases h
            rfl
          rcases within_eq_error hwithin with ⟨rfl, hslow⟩ | ⟨m, rfl, hfailed⟩
          · exact .tooSlow hkey hp hslow
          · exact .failed hkey hfailed

/-- A time that is no number to write was set as one, with a sign that makes it over at once. -/
theorem ask_eq_number {f : Binary64.Fault} (h : (d.ask find key).2.2 = .error (.number f)) :
    d.patience = .beyond true := by
  cases hkey : ApiKey.hash key with
  | error f =>
    rw [ask_of_unencodable hkey] at h
    cases h
  | ok keyHash =>
    rw [ask_of_hash hkey] at h
    -- neither the hash nor the store ends in a fault of numbers, so it is the time to wait
    cases hp : d.patience with
    | beyond negative =>
      cases negative with
      | true => rfl
      | false => simp [askFor, hp] at h
    | seconds x =>
      cases hx : x.isNonPositive with
      | true => simp [askFor, hp, hx] at h
      | false =>
        rw [askFor_of_seconds hp hx] at h
        cases hwithin : (find keyHash).within x with
        | ok found =>
          rw [hwithin] at h
          cases h
        | error e =>
          rw [hwithin] at h
          cases h

/-! ## What a resolution says -/

/-- Where the time for lookups is over at once and cannot be written, a key that is not cached is
not resolved, and not looked up. -/
theorem answer_resolve_of_impatient (hp : d.patience = .beyond true) {keyHash : Text}
    (hkey : ApiKey.hash key = .ok keyHash) (h : d.cached? now key = none) :
    (d.resolve now find key).answer = ⟨false, .error (.number .tooLarge)⟩ := by
  rw [answer_resolve_of_uncached h, ask_of_hash hkey, askFor_of_impatient hp]
  rfl

/-- A named issuer is the cached one or the one that the store found. -/
theorem resolve_eq_some {i : Identity}
    (h : (d.resolve now find key).answer.outcome = .ok (some i)) :
    d.cached? now key = some i
      ∨ d.cached? now key = none ∧ ∃ f, (d.ask find key).2.2 = .ok (some f) ∧ f.identity = i := by
  -- held, or found by asking
  cases hcached : d.cached? now key with
  | some j =>
    rw [resolve_of_cached hcached] at h
    exact Or.inl (congrArg some (Option.some.inj (Except.ok.inj h)))
  | none =>
    rw [answer_resolve_of_uncached hcached] at h
    cases hask : (d.ask find key).2.2 with
    | error e => simp [hask, Except.map] at h
    | ok found =>
      rw [hask] at h
      obtain ⟨f, hf, hi⟩ := Option.map_eq_some_iff.mp (Except.ok.inj h)
      exact Or.inr ⟨rfl, f, by rw [hf], hi⟩

/-- Any other answer is that of a lookup. -/
theorem answer_resolve_of_ne_some {o : Except Fault (Option Identity)} (hsome : ∀ i, o ≠ .ok (some i))
    (h : (d.resolve now find key).answer.outcome = o) :
    (d.resolve now find key).answer
      = ⟨(d.ask find key).2.1, (d.ask find key).2.2.map (Option.map Found.identity)⟩ := by
  cases hcached : d.cached? now key with
  | some i =>
    rw [resolve_of_cached hcached] at h
    exact absurd h.symm (hsome i)
  | none => exact answer_resolve_of_uncached hcached

/-- An error of a resolution is that of a lookup. -/
theorem ask_of_resolve_eq_error {e : Fault}
    (h : (d.resolve now find key).answer.outcome = .error e) :
    (d.resolve now find key).answer.asked = (d.ask find key).2.1
      ∧ (d.ask find key).2.2 = .error e := by
  have hanswer := answer_resolve_of_ne_some (fun i hi => by cases hi) h
  rw [hanswer] at h ⊢
  refine ⟨rfl, ?_⟩
  cases hask : (d.ask find key).2.2 with
  | error f =>
    rw [hask] at h
    cases h
    rfl
  | ok found => simp [hask, Except.map] at h

/-- A key is unknown only when the store was asked and found none. -/
theorem resolve_eq_none (h : (d.resolve now find key).answer.outcome = .ok none) :
    (d.resolve now find key).answer.asked = true
      ∧ ∃ keyHash, ApiKey.hash key = .ok keyHash ∧ (find keyHash).finding = .ok none := by
  have hanswer := answer_resolve_of_ne_some (fun i hi => by cases hi) h
  rw [hanswer] at h ⊢
  apply ask_eq_ok
  cases hask : (d.ask find key).2.2 with
  | error e => simp [hask, Except.map] at h
  | ok found =>
    have hfound : found = none := by simpa [hask, Except.map] using h
    rw [hfound]

/-- A resolution that goes unanswered has one of the reasons for that. -/
theorem resolve_eq_unanswered {e : LookupError}
    (h : (d.resolve now find key).answer.outcome = .error (.unanswered e)) :
    Unanswered d find key (d.resolve now find key).answer.asked e := by
  obtain ⟨hasked, hask⟩ := ask_of_resolve_eq_error h
  rw [hasked]
  exact ask_eq_unanswered hask

/-- A resolution faults for the time to wait alone, where that is no number that can be used. -/
theorem resolve_eq_number {f : Binary64.Fault}
    (h : (d.resolve now find key).answer.outcome = .error (.number f)) :
    d.patience = .beyond true :=
  ask_eq_number (ask_of_resolve_eq_error h).2

/-! ## Where cached entries come from -/

/-- An entry after a write is the one written or was there before. -/
theorem mem_setEntry {e f : Entry} {es : List Entry} (h : f ∈ setEntry e es) : f = e ∨ f ∈ es := by
  induction es with
  | nil => exact Or.inl (by simpa [setEntry] using h)
  | cons g es ih =>
    rw [setEntry] at h
    -- the write stops at the first entry of its key, or goes on to the end
    split at h
    · rcases List.mem_cons.mp h with h | h
      · exact Or.inl h
      · exact Or.inr (List.mem_cons_of_mem g h)
    · rcases List.mem_cons.mp h with h | h
      · exact Or.inr (by simp [h])
      · rcases ih h with hnew | hold
        · exact Or.inl hnew
        · exact Or.inr (List.mem_cons_of_mem g hold)

/-- A resolution keeps entries that were there and adds at most one: that of its own lookup. -/
theorem mem_entries_resolve {e : Entry} (h : e ∈ (d.resolve now find key).state.entries) :
    e ∈ d.entries
      ∨ d.cached? now key = none
        ∧ ∃ f, (d.ask find key).2.2 = .ok (some f) ∧ e = ⟨key, f.identity, now + d.ttlMs⟩ := by
  obtain ⟨httl, -, hentries⟩ := sweepIfDue_keeps d now
  cases hcached : d.cached? now key with
  | some i =>
    rw [resolve_of_cached hcached] at h
    exact Or.inl h
  | none =>
    unfold resolve at h
    rw [hcached] at h
    dsimp only at h
    rw [ask_sweepIfDue] at h
    -- only what was found is written; the sweep before it adds nothing
    split at h
    · exact Or.inl (hentries e h)
    · exact Or.inl (hentries e h)
    · next f hask =>
      rw [hask]
      rcases mem_setEntry h with hnew | hold
      · exact Or.inr ⟨rfl, f, rfl, by rw [hnew, httl]⟩
      · exact Or.inl (hentries e hold)

/-- Each cached identity is vouched for at a reading one lifetime before its entry ends. -/
def Backed (d : Directory) (Vouched : Int → Text → Identity → Prop) : Prop :=
  ∀ e ∈ d.entries, ∃ t, e.validUntil = t + d.ttlMs ∧ Vouched t e.key e.identity

variable {Vouched Further : Int → Text → Identity → Prop}

theorem Backed.mono (h : d.Backed Vouched)
    (himp : ∀ t key i, Vouched t key i → Further t key i) : d.Backed Further := by
  intro e he
  obtain ⟨t, hvalid, hvouched⟩ := h e he
  exact ⟨t, hvalid, himp t e.key e.identity hvouched⟩

theorem Backed.evict (h : d.Backed Vouched) (now : Int) : (d.evict now).Backed Vouched :=
  fun e he => h e (List.mem_filter.mp he).1

/-- A resolution keeps the backing if its own lookup is taken for evidence. -/
theorem Backed.resolve (h : d.Backed Vouched)
    (hnew : ∀ f, d.cached? now key = none → (d.ask find key).2.2 = .ok (some f) →
      Vouched now key f.identity) : (d.resolve now find key).state.Backed Vouched := by
  intro e he
  rw [(settings_resolve d now find key).1]
  rcases mem_entries_resolve he with hold | ⟨hcached, f, hask, rfl⟩
  · exact h e hold
  · exact ⟨now, rfl, hnew f hcached hask⟩

/-- What is served from the cache was vouched for less than a lifetime ago. -/
theorem Backed.of_cached (h : d.Backed Vouched) {i : Identity}
    (hcached : d.cached? now key = some i) : ∃ t, now < t + d.ttlMs ∧ Vouched t key i := by
  obtain ⟨e, he, hkey, hi, hvalid⟩ := exists_entry_of_cached? hcached
  obtain ⟨t, hend, hvouched⟩ := h e he
  rw [hkey, hi] at hvouched
  exact ⟨t, by omega, hvouched⟩

end IssuerGate.Directory
