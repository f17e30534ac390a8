import IssuerGate.Proofs.Counters.Within
import IssuerGate.Proofs.Limiter.Undisturbed

/-!
# IssuerGate — counters that stay sound under any clock

Readings of a clock may jump, also backwards and below zero, and a consume may fail after it has
counted. None of this leads counters to a state in which a bucket has no owner, counts more than its
quota or carries a flag that it has not earned.

* **`Counters.Sound`** — what a maintainer may rely on between two calls.
* **`Limiter.counters_after`** — a run of a limiter is a run of its counters, whatever the receiver
  does with the events.
* **`sound_of_run`** — all counters that such runs lead to are sound.
-/

namespace IssuerGate

namespace Counters

/-- Buckets and owners belong together, the buckets are within the quota, and the next consume or
sweep does what it says: a verdict shows the live bucket that it leaves, and a sweep drops what a
report would not show. -/
structure Sound (q : Quota) (c : Counters) : Prop where
  matched : (Registers.ofSlots c.window c.slots).Matched
  within : ∀ s ∈ c.slots, s.bucket.Within q
  of_consume : ∀ {now : Int} {issuer : Json} {tier : Tier} {route : Text} {v : Verdict},
    (c.consume q now issuer tier route).2 = .ok v →
      (c.consume q now issuer tier route).1.get? issuer route = some v.bucket
        ∧ now < v.bucket.windowStart + c.window
        ∧ v.Fits q tier (c.bucketFor now issuer tier route)
  swept : ∀ now, (Registers.ofSlots c.window c.slots).Swept now (c.snapshot now)
    (Registers.ofSlots c.window (c.sweep now).slots)

/-- Counters of distinct keys whose buckets are within the quota are sound: the two registers are
one list of slots seen twice. -/
theorem Sound.of_within {q : Quota} {c : Counters} (hkeys : c.DistinctKeys)
    (hwithin : ∀ s ∈ c.slots, s.bucket.Within q) : c.Sound q where
  matched := Registers.matched_ofSlots hkeys
  within := hwithin
  of_consume {now issuer tier route v} h := by
    rw [consume_eq_charge] at h ⊢
    obtain ⟨hleft, hfits⟩ := fits_of_charge h
    have hlive := Bucket.isLive_charge c.one_le_window q now tier (c.get? issuer route)
    rw [← hleft] at hlive ⊢
    have hlt : now - v.bucket.windowStart < c.window := of_decide_eq_true hlive
    exact ⟨get?_set c issuer route v.bucket, by omega, hfits⟩
  swept := Registers.swept_ofSlots hkeys

theorem window_after (q : Quota) (ms : Int) (calls : List Call) :
    (Run.after (perform q) (ofWindow ms) calls).window = max 1 ms :=
  Run.after_invariant (fun c : Counters => c.window = max 1 ms)
    (fun c call h => (Registers.window_perform q c call).trans h) rfl calls

end Counters

/-! ## The counters of a limiter -/

namespace Limiter

variable {ρ : Type} [Receiver ρ]

/-- The calls that one call of a limiter makes of its counters. -/
def asks (l : Limiter) (call : Call) : List Counters.Call :=
  match call.action with
  | .consume issuer tier route =>
    if call.now - l.lastSweep < l.quota.sweepMs then [⟨call.now, .consume issuer tier route⟩]
    else [⟨call.now, .sweep⟩, ⟨call.now, .consume issuer tier route⟩]
  | .sweep => [⟨call.now, .sweep⟩]
  | .get issuer route => [⟨call.now, .get issuer route⟩]
  | .usage => [⟨call.now, .snapshot⟩]

/-- The calls that a run makes of the counters, in order. -/
def asked (s : Limiter × ρ) (calls : List Call) : List Counters.Call :=
  (Run.moments perform s calls).flatMap fun m => m.1.1.asks m.2

/-- What a call of the limiter does to its counters is what it asks of them. -/
theorem counters_perform (s : Limiter × ρ) (call : Call) :
    (perform s call).state.1.counters
      = Run.after (Counters.perform s.1.quota) s.1.counters (s.1.asks call) := by
  obtain ⟨now, action⟩ := call
  cases action with
  | consume issuer tier route =>
    show (s.1.consume s.2 now issuer tier route).state.1.counters = _
    rw [limiter_consume]
    unfold sweepIfDue asks
    dsimp only
    -- swept first or not
    split <;> rfl
  | sweep => rfl
  | get issuer route => rfl
  | usage => rfl

/-- **A run of a limiter is a run of its counters.** -/
theorem counters_after (s : Limiter × ρ) (calls : List Call) :
    (Run.after perform s calls).1.counters
      = Run.after (Counters.perform s.1.quota) s.1.counters (asked s calls) := by
  induction calls generalizing s with
  | nil => rfl
  | cons call calls ih =>
    have hlater := ih (perform s call).state
    rw [quota_perform, counters_perform, ← Run.after_append] at hlater
    exact hlater

end Limiter

/-! ## Runs -/

open Counters in
/-- **Counters stay sound under any clock.** No call of a run misses an entry of the two registers in
which the buckets and the owners are kept; the counters that it leaves are sound; and so are those of
a limiter that is then asked anything, under the same quota, since its run goes on with a run of
theirs. -/
theorem sound_of_run (q : Quota) (ms : Int) (calls : List Counters.Call) :
    let c := Run.after (perform q) (ofWindow ms) calls
    c.window = max 1 ms ∧ c.Sound q
      ∧ (Registers.ofWindow ms).run? q calls
        = some (.ofSlots c.window c.slots,
          (Run.transcript (perform q) (ofWindow ms) calls).map (·.2))
      ∧ ∀ (ρ : Type) [Receiver ρ] (r : ρ) (lastSweep : Int) (later : List Limiter.Call),
        let s : Limiter × ρ := (⟨q, c, lastSweep⟩, r)
        (Run.after Limiter.perform s later).1.counters.Sound q
          ∧ (Run.after Limiter.perform s later).1.counters
            = Run.after (perform q) (ofWindow ms) (calls ++ Limiter.asked s later) := by
  intro c
  have hsound : ∀ run : List Counters.Call, (Run.after (perform q) (ofWindow ms) run).Sound q :=
    fun run => .of_within (distinctKeys_after q ms run) (within_after q ms run)
  have hwindow : c.window = max 1 ms := window_after q ms calls
  have hrun : (Registers.ofWindow ms).run? q calls
      = some (.ofSlots c.window c.slots,
        (Run.transcript (perform q) (ofWindow ms) calls).map (·.2)) := by
    rw [hwindow]
    exact Registers.run?_ofSlots (distinctKeys_ofWindow ms) q calls
  refine ⟨hwindow, hsound calls, hrun, fun ρ _ r lastSweep later => ?_⟩
  intro s
  -- a run of the limiter is, for the counters, one more run of their own
  have hcounters := Limiter.counters_after s later
  rw [← Run.after_append] at hcounters
  rw [hcounters]
  exact ⟨hsound _, rfl⟩

end IssuerGate
