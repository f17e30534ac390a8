import IssuerGate.Proofs.Gate.Check

/-!
# IssuerGate — runs of a gate

A gate is asked to check requests; beside that, entries of its directory may be evicted and its
limiter may be asked for anything. What the store says is given with each check, so it may change in
any way in between.

* **`charged`** — the calls that a call of the gate makes of the limiter: one consume for a check
  whose key is resolved, none for any other check.
* **`meter_after`** — the limiter and the receiver behind it go through a run of the gate as they go
  through the calls made of the limiter, and nothing else reaches them.
-/

namespace IssuerGate.Gate

/-- What can happen at a gate. -/
inductive Action where
  | check (find : Text → Lookup) (key : Option Text) (route : Text)
  | evict (reading : Int)
  | limiter (action : Limiter.Action)

/-- Something that happens at a gate, at a reading of the clock. -/
structure Call where
  now : Int
  action : Action

/-- The answer to a call. -/
inductive Answer where
  | checked (outcome : Except Denial Admission)
  | evicted (dropped : Nat)
  | limiter (answer : Limiter.Answer)

section Run

variable {ρ : Type}

/-- The limiter of a gate, and the receiver behind it. -/
def meter (s : Gate × ρ) : Limiter × ρ := (s.1.limiter, s.2)

/-- The calls that a call of the gate makes of the limiter. -/
def charged (s : Gate × ρ) (c : Call) : List Limiter.Call :=
  match c.action with
  | .check find key route =>
    match s.1.issuer? c.now find key with
    | none => []
    | some i => [⟨c.now, .consume i.id i.tier route⟩]
  | .evict _ => []
  | .limiter action => [⟨c.now, action⟩]

/-- The calls of the limiter are made at the reading of the call of the gate. -/
theorem now_of_mem_charged {s : Gate × ρ} {c : Call} {l : Limiter.Call} (h : l ∈ charged s c) :
    l.now = c.now := by
  unfold charged at h
  split at h
  · split at h
    · cases h
    · rw [List.mem_singleton.mp h]
  · cases h
  · rw [List.mem_singleton.mp h]

variable [Receiver ρ]

/-- One call of a gate with a receiver behind it. -/
def perform (s : Gate × ρ) (c : Call) : Step (Gate × ρ) Answer :=
  match c.action with
  | .check find key route =>
    let x := s.1.check s.2 c.now find key route
    ⟨(x.gate, x.receiver), x.log, .checked x.outcome⟩
  | .evict reading =>
    ⟨({ s.1 with directory := s.1.directory.evict reading }, s.2), [],
      .evicted (s.1.directory.expired reading)⟩
  | .limiter action =>
    let x := Limiter.perform (s.1.limiter, s.2) ⟨c.now, action⟩
    ⟨({ s.1 with limiter := x.state.1 }, x.state.2), x.log, .limiter x.answer⟩

/-- The calls that a run of the gate makes of the limiter. -/
def ledger : Gate × ρ → List Call → List Limiter.Call
  | _, [] => []
  | s, c :: calls => charged s c ++ ledger (perform s c).state calls

/-- Each line of the ledger is written at the time of a call. -/
theorem exists_of_mem_ledger {s : Gate × ρ} {calls : List Call} {l : Limiter.Call}
    (h : l ∈ ledger s calls) : ∃ c ∈ calls, l.now = c.now := by
  induction calls generalizing s with
  | nil => cases h
  | cons c calls ih =>
    rcases List.mem_append.mp h with hown | hlater
    · exact ⟨c, by simp, now_of_mem_charged hown⟩
    · obtain ⟨d, hd, hnow⟩ := ih hlater
      exact ⟨d, by simp [hd], hnow⟩

/-- **A ledger is in the order of its run.** -/
theorem ordered_ledger {s : Gate × ρ} {calls : List Call} (h : Run.Ordered Call.now calls) :
    Run.Ordered Limiter.Call.now (ledger s calls) := by
  induction calls generalizing s with
  | nil => exact List.Pairwise.nil
  | cons c calls ih =>
    obtain ⟨hfirst, hrest⟩ := List.pairwise_cons.mp h
    refine List.pairwise_append.mpr ⟨?_, ih hrest, ?_⟩
    -- what one call charges is charged at one reading
    · apply List.pairwise_of_forall_mem_list
      intro l hl m hm
      have hfirstNow := now_of_mem_charged hl
      have hsecondNow := now_of_mem_charged hm
      omega
    -- and what later calls charge, at readings that are not before it
    · intro l hl m hm
      obtain ⟨d, hd, hnow⟩ := exists_of_mem_ledger hm
      rw [now_of_mem_charged hl, hnow]
      exact hfirst d hd

/-- **One call reaches the limiter and the receiver through the charged calls alone.** -/
theorem meter_perform (s : Gate × ρ) (c : Call) :
    meter (perform s c).state = Run.after Limiter.perform (meter s) (charged s c) := by
  obtain ⟨now, action⟩ := c
  cases action with
  | check find key route =>
    unfold perform charged
    dsimp only
    -- a check is charged once if it names an issuer; evicting leaves the limiter alone
    cases hissuer : s.1.issuer? now find key with
    | none =>
      obtain ⟨directory, log, asked, outcome, hcheck, -⟩ := check_of_issuer?_none hissuer s.2 route
      rw [hcheck]
      rfl
    | some i =>
      obtain ⟨directory, log, asked, hcheck⟩ := check_of_issuer?_some hissuer s.2 route
      rw [hcheck]
      dsimp only
      rw [state_charge]
      rfl
  | evict reading => rfl
  | limiter action => rfl

/-- **The meter goes through a run of the gate as through its ledger.** -/
theorem meter_after (s : Gate × ρ) (calls : List Call) :
    meter (Run.after perform s calls) = Run.after Limiter.perform (meter s) (ledger s calls) := by
  induction calls generalizing s with
  | nil => rfl
  | cons c calls ih =>
    unfold ledger
    rw [Run.after_cons, Run.after_append, ← meter_perform, ih]

theorem failOpen_perform (s : Gate × ρ) (c : Call) :
    (perform s c).state.1.failOpen = s.1.failOpen := by
  obtain ⟨now, action⟩ := c
  cases action with
  | check find key route =>
    show (s.1.check s.2 now find key route).gate.failOpen = _
    -- whether charged or not, a check writes the directory and the limiter alone
    cases hissuer : s.1.issuer? now find key with
    | none =>
      obtain ⟨directory, log, asked, outcome, hcheck, -⟩ := check_of_issuer?_none hissuer s.2 route
      rw [hcheck]
    | some i =>
      obtain ⟨directory, log, asked, hcheck⟩ := check_of_issuer?_some hissuer s.2 route
      rw [hcheck]
      dsimp only
      rw [state_charge]
  | evict reading => rfl
  | limiter action => rfl

theorem quota_perform (s : Gate × ρ) (c : Call) :
    (perform s c).state.1.limiter.quota = s.1.limiter.quota := by
  have hquota := Run.after_invariant (fun m : Limiter × ρ => m.1.quota = s.1.limiter.quota)
    (fun m l hm => (Limiter.quota_perform m l).trans hm) (s := meter s) rfl (charged s c)
  rw [← meter_perform] at hquota
  exact hquota

theorem settings_after (s : Gate × ρ) (calls : List Call) :
    (Run.after perform s calls).1.failOpen = s.1.failOpen
      ∧ (Run.after perform s calls).1.limiter.quota = s.1.limiter.quota :=
  Run.after_invariant
    (fun s' : Gate × ρ => s'.1.failOpen = s.1.failOpen ∧ s'.1.limiter.quota = s.1.limiter.quota)
    (fun s' c hs' =>
      ⟨(failOpen_perform s' c).trans hs'.1, (quota_perform s' c).trans hs'.2⟩)
    ⟨rfl, rfl⟩ calls

end Run

end IssuerGate.Gate
