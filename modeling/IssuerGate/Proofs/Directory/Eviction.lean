import IssuerGate.Proofs.Directory.Staleness
import IssuerGate.Proofs.Keyed

/-!
# IssuerGate — evictions that nobody notices

Entries that are no longer valid stay in the cache until they are evicted: by a sweep in front of a
lookup, if the last one is long enough ago, or on call. When that happens is left to chance, and
makes no difference:

* **`cached?_evict`** — an eviction takes away nothing that a later resolution could be served. For
  this no two entries may have the same key, `DistinctKeys`.
* **`Agree`** — two directories serve the same identities from a reading on, whatever else they
  still hold. Sweeps, evictions of the past and resolutions keep it (`Agree.resolve`), and under it
  a key is resolved alike.
* **`resolutions_eq_calm`** — so a run answers as the same run without any evictions does, under any
  other sweep interval.
* **`resolutions_eq_of_evictions`** — and two runs that differ in evictions and sweeps alone answer
  alike.
-/

namespace IssuerGate

namespace Directory

/-! ## Distinct keys -/

/-- No two entries have the same key. -/
def DistinctKeys (d : Directory) : Prop := (d.entries.map Entry.key).Nodup

theorem distinctKeys_start (ttlMs : Int) (patience : Patience) (sweepMs now : Int) :
    (start ttlMs patience sweepMs now).DistinctKeys := List.nodup_nil

theorem nodup_keys_setEntry (e : Entry) {es : List Entry} (h : (es.map Entry.key).Nodup) :
    ((setEntry e es).map Entry.key).Nodup := by
  induction es with
  | nil => simp [setEntry]
  | cons f es ih =>
    rw [List.map_cons, List.nodup_cons] at h
    -- the new entry takes the place of the old one under its key
    by_cases hf : f.key = e.key
    · simpa [setEntry, hf] using h
    · rw [setEntry, if_neg hf, List.map_cons, List.nodup_cons]
      refine ⟨fun hmem => ?_, ih h.2⟩
      obtain ⟨g, hg, hkey⟩ := List.mem_map.mp hmem
      rcases mem_setEntry hg with rfl | hold
      · exact hf hkey.symm
      · exact h.1 (List.mem_map.mpr ⟨g, hold, hkey⟩)

variable {d e : Directory} {now reading : Int} {find : Text → Lookup} {key : Text}

theorem DistinctKeys.evict (h : d.DistinctKeys) (reading : Int) : (d.evict reading).DistinctKeys :=
  h.sublist (List.filter_sublist.map Entry.key)

/-- Before it learns, a directory is swept or left as it is. -/
theorem sweepIfDue_cases (d : Directory) (now : Int) :
    (d.sweepIfDue now).state = d
      ∨ (d.sweepIfDue now).state = { d.evict now with lastSweep := now } := by
  unfold sweepIfDue
  split
  · exact Or.inl rfl
  · exact Or.inr rfl

theorem DistinctKeys.sweepIfDue (h : d.DistinctKeys) (now : Int) :
    (d.sweepIfDue now).state.DistinctKeys := by
  rcases sweepIfDue_cases d now with hs | hs
  · rwa [hs]
  · rw [hs]
    exact h.evict now

/-! ## What can be served -/

/-- **An eviction takes away nothing that could be served at its reading or later.** -/
theorem cached?_evict (h : d.DistinctKeys) (hle : reading ≤ now) (key : Text) :
    (d.evict reading).cached? now key = d.cached? now key := by
  have hfind := Keyed.find?_filter_of_nodup h (fun e => reading < e.validUntil) key
  unfold cached?
  show ((d.entries.filter _).find? _).bind _ = _
  rw [hfind]
  cases d.entries.find? (·.key = key) with
  | none => rfl
  | some e =>
    -- what was out of date at the reading is so at any later time
    by_cases hvalid : reading < e.validUntil
    · simp [Option.filter, hvalid]
    · have hpast : ¬ now < e.validUntil := by omega
      simp [Option.filter, hvalid, hpast]

/-- What a sweep drops would not be served later either. -/
theorem cached?_sweepIfDue (h : d.DistinctKeys) (hle : reading ≤ now) (key : Text) :
    (d.sweepIfDue reading).state.cached? now key = d.cached? now key := by
  rcases sweepIfDue_cases d reading with hs | hs
  · rw [hs]
  · rw [hs]
    exact cached?_evict h hle key

/-- The directory once a lookup has answered: an issuer that was found is cached. -/
def learn (d : Directory) (now : Int) (key : Text) : Except Fault (Option Found) → Directory
  | .ok (some f) =>
    { d with entries := setEntry ⟨key, f.identity, now + d.ttlMs⟩ d.entries }
  | _ => d

theorem DistinctKeys.learn (h : d.DistinctKeys) (now : Int) (key : Text)
    (found : Except Fault (Option Found)) : (d.learn now key found).DistinctKeys := by
  unfold Directory.learn
  split
  · exact nodup_keys_setEntry _ h
  · exact h

/-- A lookup that finds an issuer decides what its key is served, and nothing else changes. -/
theorem cached?_learn (d : Directory) (now : Int) (key : Text) (found : Except Fault (Option Found))
    (m : Int) (other : Text) :
    (d.learn now key found).cached? m other
      = match found with
        | .ok (some f) =>
          if other = key then (if m < now + d.ttlMs then some f.identity else none)
          else d.cached? m other
        | _ => d.cached? m other := by
  unfold learn
  split
  · next f =>
    unfold cached?
    dsimp only
    -- only an issuer that was found is kept, and under its own key
    by_cases hkey : other = key
    · have hset := find?_setEntry ⟨key, f.identity, now + d.ttlMs⟩ d.entries
      simp only [hkey, hset, if_true, Option.bind_some]
    · have hset := find?_setEntry_of_ne (e := ⟨key, f.identity, now + d.ttlMs⟩) hkey d.entries
      simp only [hset, hkey, if_false]
  · rfl

/-- What a resolution leaves that is not served from the cache: perhaps swept, and wiser. -/
theorem state_resolve_of_uncached (h : d.cached? now key = none) :
    (d.resolve now find key).state
      = (d.sweepIfDue now).state.learn now key (d.ask find key).2.2 := by
  unfold resolve
  rw [h]
  dsimp only
  rw [ask_sweepIfDue]
  obtain ⟨log, asked, outcome⟩ := d.ask find key
  cases outcome with
  | error e => rfl
  | ok found => cases found <;> rfl

/-! ## Agreement -/

/-- From a reading on, both directories serve the same identities; and both ask the store alike. -/
structure Agree (d e : Directory) (now : Int) : Prop where
  distinct : d.DistinctKeys
  distinct_other : e.DistinctKeys
  ttlMs_eq : d.ttlMs = e.ttlMs
  patience_eq : d.patience = e.patience
  cached_eq : ∀ m key, now ≤ m → d.cached? m key = e.cached? m key

/-- Empty directories agree, whatever their sweep intervals are and whenever they were started. -/
theorem agree_start (ttlMs : Int) (patience : Patience) (sweepMs sweepMs' opened opened' now : Int) :
    Agree (start ttlMs patience sweepMs opened) (start ttlMs patience sweepMs' opened') now where
  distinct := distinctKeys_start ttlMs patience sweepMs opened
  distinct_other := distinctKeys_start ttlMs patience sweepMs' opened'
  ttlMs_eq := rfl
  patience_eq := rfl
  cached_eq _ _ _ := rfl

theorem Agree.later (h : Agree d e now) {later : Int} (hle : now ≤ later) : Agree d e later where
  distinct := h.distinct
  distinct_other := h.distinct_other
  ttlMs_eq := h.ttlMs_eq
  patience_eq := h.patience_eq
  cached_eq m key hm := h.cached_eq m key (by omega)

/-- Directories that agree ask the store in the same way, having the same patience. -/
theorem Agree.ask_eq (h : Agree d e now) (find : Text → Lookup) (key : Text) :
    d.ask find key = e.ask find key := by
  unfold ask askFor
  rw [h.patience_eq]

/-- One of the two may evict what is past. -/
theorem Agree.evict (h : Agree d e now) (hle : reading ≤ now) : Agree (d.evict reading) e now where
  distinct := h.distinct.evict reading
  distinct_other := h.distinct_other
  ttlMs_eq := h.ttlMs_eq
  patience_eq := h.patience_eq
  cached_eq m key hm := by
    rw [cached?_evict h.distinct (by omega)]
    exact h.cached_eq m key hm

/-- Each of the two may sweep, or not. -/
theorem Agree.sweepIfDue (h : Agree d e now) :
    Agree (d.sweepIfDue now).state (e.sweepIfDue now).state now where
  distinct := h.distinct.sweepIfDue now
  distinct_other := h.distinct_other.sweepIfDue now
  ttlMs_eq := by
    rw [(sweepIfDue_keeps d now).1, (sweepIfDue_keeps e now).1]
    exact h.ttlMs_eq
  patience_eq := by
    rw [(sweepIfDue_keeps d now).2.1, (sweepIfDue_keeps e now).2.1]
    exact h.patience_eq
  cached_eq m key hm := by
    rw [cached?_sweepIfDue h.distinct hm, cached?_sweepIfDue h.distinct_other hm]
    exact h.cached_eq m key hm

theorem settings_learn (d : Directory) (now : Int) (key : Text)
    (found : Except Fault (Option Found)) :
    (d.learn now key found).ttlMs = d.ttlMs ∧ (d.learn now key found).patience = d.patience := by
  unfold learn
  split <;> exact ⟨rfl, rfl⟩

/-- Directories that agree still do after learning the same. -/
theorem Agree.learn (h : Agree d e now) (key : Text) (found : Except Fault (Option Found)) :
    Agree (d.learn now key found) (e.learn now key found) now where
  distinct := h.distinct.learn now key found
  distinct_other := h.distinct_other.learn now key found
  ttlMs_eq := by
    rw [(settings_learn d now key found).1, (settings_learn e now key found).1]
    exact h.ttlMs_eq
  patience_eq := by
    rw [(settings_learn d now key found).2, (settings_learn e now key found).2]
    exact h.patience_eq
  cached_eq m other hm := by
    rw [cached?_learn, cached?_learn, h.ttlMs_eq, h.cached_eq m other hm]

/-- **A key is resolved alike by directories that agree, and they agree afterwards.** -/
theorem Agree.resolve (h : Agree d e now) (find : Text → Lookup) (key : Text) :
    Agree (d.resolve now find key).state (e.resolve now find key).state now
      ∧ (d.resolve now find key).answer = (e.resolve now find key).answer := by
  have hcached := h.cached_eq now key (Int.le_refl now)
  -- both serve the key from what they hold, or both ask for it
  cases hserved : d.cached? now key with
  | some i =>
    rw [hserved] at hcached
    rw [resolve_of_cached hserved, resolve_of_cached hcached.symm]
    exact ⟨h, rfl⟩
  | none =>
    rw [hserved] at hcached
    constructor
    · rw [state_resolve_of_uncached hserved, state_resolve_of_uncached hcached.symm, h.ask_eq]
      exact h.sweepIfDue.learn key _
    · rw [answer_resolve_of_uncached hserved, answer_resolve_of_uncached hcached.symm, h.ask_eq]

/-! ## Runs -/

def Call.evicts : Call → Bool
  | ⟨_, .evict _⟩ => true
  | _ => false

/-- Is nothing evicted at a reading that is still to come? -/
def Call.timely : Call → Bool
  | ⟨now, .evict reading⟩ => reading ≤ now
  | _ => true

/-- The calls of a run other than its evictions. -/
def calm (calls : List Call) : List Call := calls.filter (!·.evicts)

/-- The resolution of a line of a transcript. -/
def resolved? (line : Call × Option Resolution) : Option (Call × Resolution) :=
  line.2.map (line.1, ·)

/-- The resolutions of a run, in order: what is called, what it comes to, and whether a lookup was
begun for it. -/
def resolutions (w : Directory × Roster) (calls : List Call) : List (Call × Resolution) :=
  (Run.transcript perform w calls).filterMap resolved?

theorem resolutions_cons (w : Directory × Roster) (c : Call) (calls : List Call) :
    resolutions w (c :: calls)
      = (resolved? (c, (perform w c).answer)).toList ++ resolutions (perform w c).state calls := by
  unfold resolutions
  rw [Run.transcript_cons, List.filterMap_cons]
  cases resolved? (c, (perform w c).answer) <;> rfl

/-- One call other than an eviction, in front of one roster: it is answered alike. -/
theorem Agree.perform {v w : Directory × Roster} {c : Call} (h : Agree v.1 w.1 c.now)
    (hroster : v.2 = w.2) (hcalm : c.evicts = false) :
    Agree (perform v c).state.1 (perform w c).state.1 c.now
      ∧ (perform v c).state.2 = (perform w c).state.2
      ∧ (perform v c).answer = (perform w c).answer := by
  obtain ⟨now, action⟩ := c
  unfold Directory.perform
  rw [hroster]
  cases action with
  | resolve key =>
    obtain ⟨hstate, hanswer⟩ := h.resolve w.2.find key
    exact ⟨hstate, rfl, congrArg some hanswer⟩
  | put m => exact ⟨h, rfl, rfl⟩
  | remove keyHash => exact ⟨h, rfl, rfl⟩
  | fail outage => exact ⟨h, rfl, rfl⟩
  | evict reading => cases hcalm

/-- **A run answers as its calm part does**, in front of a directory that agrees with the first one.
Induction on the calls from the front: an eviction happens on one side only, any other call on
both. -/
theorem resolutions_eq_calm {v w : Directory × Roster} {now : Int} (h : Agree v.1 w.1 now)
    (hroster : v.2 = w.2) {calls : List Call} (hclock : Run.Ordered Call.now calls)
    (hnow : ∀ c ∈ calls, now ≤ c.now) (htimely : ∀ c ∈ calls, c.timely = true) :
    resolutions v calls = resolutions w (calm calls) := by
  induction calls generalizing v w now with
  | nil => rfl
  | cons c calls ih =>
    obtain ⟨hfirst, hrest⟩ := List.pairwise_cons.mp hclock
    obtain ⟨hle, hnow⟩ := List.forall_mem_cons.mp hnow
    obtain ⟨hthis, htimely⟩ := List.forall_mem_cons.mp htimely
    have hreached : Agree v.1 w.1 c.now := h.later hle
    rw [resolutions_cons]
    -- an eviction is left out on the right, and on the left keeps the two in agreement
    cases hevicts : c.evicts with
    | true =>
      obtain ⟨reading, hc⟩ : ∃ reading, c = ⟨c.now, .evict reading⟩ := by
        obtain ⟨now, action⟩ := c
        cases action with
        | evict reading => exact ⟨reading, rfl⟩
        | _ => cases hevicts
      have hpast : reading ≤ c.now := by
        rw [hc] at hthis
        simpa [Call.timely] using hthis
      have hcalm : calm (c :: calls) = calm calls := by simp [calm, hevicts]
      have hstep : perform v c = ⟨(v.1.evict reading, v.2), [], none⟩ := by
        rw [hc]
        rfl
      rw [hcalm, hstep]
      exact ih (hreached.evict hpast) hroster hrest hfirst htimely
    -- any other call is made on both sides and answered alike
    | false =>
      have hcalm : calm (c :: calls) = c :: calm calls := by simp [calm, hevicts]
      obtain ⟨hstate, hrosters, hanswer⟩ := hreached.perform hroster hevicts
      rw [hcalm, resolutions_cons, hanswer, ih hstate hrosters hrest hfirst htimely]

/-- **Sweeps and evictions cannot be noticed.** Two directories with the same lifetime of entries and
the same time for lookups, in front of the same roster: whatever their sweep intervals are, whenever
they were started, and whatever either of them evicts in between, each key is resolved alike in
both, with the same issuer or the same error, and a lookup is begun in one if and only if it is in
the other. -/
theorem resolutions_eq_of_evictions (ttlMs : Int) (patience : Patience)
    (sweepMs sweepMs' opened opened' : Int) (roster : Roster) {calls others : List Call}
    (hclock : Run.Ordered Call.now calls) (hclock' : Run.Ordered Call.now others)
    (htimely : ∀ c ∈ calls, c.timely = true) (htimely' : ∀ c ∈ others, c.timely = true)
    (hsame : calm calls = calm others) :
    resolutions (start ttlMs patience sweepMs opened, roster) calls
      = resolutions (start ttlMs patience sweepMs' opened', roster) others := by
  -- both runs are compared with the calm one in front of the first directory
  have hcalm (sweepMs' opened' : Int) {run : List Call} (hclock : Run.Ordered Call.now run)
      (htimely : ∀ c ∈ run, c.timely = true) :
      resolutions (start ttlMs patience sweepMs' opened', roster) run
        = resolutions (start ttlMs patience sweepMs opened, roster) (calm run) := by
    obtain ⟨first, hfirst⟩ := Run.exists_reading_le Call.now run
    have hagree := agree_start ttlMs patience sweepMs' sweepMs opened' opened first
    exact resolutions_eq_calm (v := (_, roster)) (w := (_, roster)) hagree rfl hclock hfirst htimely
  rw [hcalm sweepMs opened hclock htimely, hcalm sweepMs' opened' hclock' htimely', hsame]

/-- An issuer is cached, and its entry expires while the store is down. The first directory never
sweeps; the second one sweeps in front of each lookup and evicts in between. -/
theorem resolutions_eq_of_evictions_of_outage :
    let key : Text := "k"
    let roster : Roster := ⟨[⟨ApiKey.digest key, ⟨.ofString "a", .ofString "paid"⟩, true⟩], none⟩
    let calls : List Call :=
      [⟨0, .resolve key⟩, ⟨50, .resolve key⟩, ⟨60, .fail (some .timedOut)⟩, ⟨100, .resolve key⟩]
    let others : List Call :=
      [⟨0, .resolve key⟩, ⟨50, .resolve key⟩, ⟨55, .evict 40⟩, ⟨60, .fail (some .timedOut)⟩,
        ⟨100, .evict 100⟩, ⟨100, .resolve key⟩]
    let found := resolutions (start 100 (.ofInt 2) 60000 0, roster) calls
    Run.Ordered Call.now calls ∧ Run.Ordered Call.now others
      ∧ (∀ c ∈ calls, c.timely = true) ∧ (∀ c ∈ others, c.timely = true) ∧ calm calls = calm others
      ∧ found.map (·.2.asked) = [true, false, true]
      ∧ found = resolutions (start 100 (.ofInt 2) (-1) 0, roster) others := by
  intro key roster calls others found
  have hclock : Run.Ordered Call.now calls := by decide
  have hclock' : Run.Ordered Call.now others := by decide
  have htimely : ∀ c ∈ calls, c.timely = true := by decide
  have htimely' : ∀ c ∈ others, c.timely = true := by decide
  have hasked : found.map (·.2.asked) = [true, false, true] := by decide +kernel
  exact ⟨hclock, hclock', htimely, htimely', rfl, hasked,
    resolutions_eq_of_evictions 100 (.ofInt 2) 60000 (-1) 0 0 roster hclock hclock' htimely htimely'
      rfl⟩

end Directory

end IssuerGate
