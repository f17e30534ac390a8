import IssuerGate.Proofs.Counters.Within
import IssuerGate.Proofs.Limiter.Given
import Mathlib.Data.List.Dedup
import Mathlib.Data.List.Perm.Subperm

/-!
# IssuerGate — how many buckets a limiter keeps

A limiter sweeps when it is asked and the last sweep is long enough ago, so buckets outlive their
windows. They do so by less than the time between two sweeps, and each was opened by a request: what
is stored right after a request goes back to recent traffic.

* **`Recent`** — each bucket has opened its window at one of some requests, less than a window
  before the last sweep at the earliest. Every call keeps that as long as the clock does not go back.
* **`le_lastSweep_sweepIfDue`** — how long ago the last sweep can be when a request is charged.
* **`footprint_of_run`** — so the buckets are no more than the pairs of the recent requests.
-/

namespace IssuerGate

/-- After a consume a window has opened at it, under its key, or was open under the same key before. -/
theorem Counters.windowStart_of_mem_consume {c : Counters} {q : Quota} {now : Int} {issuer : Json}
    {tier : Tier} {route : Text} {s : Slot} (h : s ∈ (c.consume q now issuer tier route).1.slots) :
    s.key = bucketKey issuer route ∧ s.bucket.windowStart = now
      ∨ ∃ t ∈ c.slots, t.key = s.key ∧ t.bucket.windowStart = s.bucket.windowStart := by
  rw [consume_eq_charge] at h
  obtain ⟨hstart, -, -⟩ := Bucket.charge_keeps c.window q now tier (c.get? issuer route)
  rcases mem_setSlot h with ⟨hkey, hbucket⟩ | hold
  · rw [hkey, hbucket, hstart]
    -- the charge is of a stored bucket whose window runs, or of a fresh one
    obtain ⟨b, hb, -, hroll⟩ | ⟨-, hroll⟩ := Bucket.roll_cases c.window now tier (c.get? issuer route)
    · obtain ⟨t, ht, htkey, htb⟩ := exists_of_get? hb
      exact Or.inr ⟨t, ht, htkey, by rw [hroll, htb]⟩
    · exact Or.inl ⟨rfl, by rw [hroll]⟩
  · exact Or.inr ⟨s, hold, rfl, rfl⟩

namespace Limiter

open Counters

/-! ## Buckets and requests -/

/-- No bucket has opened its window a whole window or more before the last sweep, and each has done
so at a request for its key. -/
structure Recent (l : Limiter) (xs : List Request) (now : Int) : Prop where
  swept : l.lastSweep ≤ now
  start_gt : ∀ s ∈ l.counters.slots, l.lastSweep - l.window < s.bucket.windowStart
  opened : ∀ s ∈ l.counters.slots, ∃ x ∈ xs, x.key = s.key ∧ x.now = s.bucket.windowStart

variable {l : Limiter} {xs : List Request} {now : Int}

theorem recent_start (q : Quota) {opened : Int} (h : opened ≤ now) :
    Recent (start q none opened) [] now where
  swept := h
  start_gt _ hs := by cases hs
  opened _ hs := by cases hs

theorem Recent.later (h : Recent l xs now) {later : Int} (hle : now ≤ later) :
    Recent l xs later where
  swept := by
    have hswept := h.swept
    omega
  start_gt := h.start_gt
  opened := h.opened

theorem Recent.sweep (h : Recent l xs now) : Recent (l.sweep now) xs now where
  swept := h.swept
  start_gt s hs := h.start_gt s (mem_slots_sweep.mp hs).1
  opened s hs := h.opened s (mem_slots_sweep.mp hs).1

/-- A sweep that counts as one leaves the windows that are still running, and these have not opened
a window before it. -/
theorem Recent.due (h : Recent l xs now) :
    Recent { l with counters := l.counters.sweep now, lastSweep := now } xs now where
  swept := Int.le_refl now
  start_gt s hs := by
    have hlive : now - s.bucket.windowStart < l.counters.window :=
      of_decide_eq_true (mem_slots_sweep.mp hs).2
    show now - l.counters.window < _
    omega
  opened s hs := h.opened s (mem_slots_sweep.mp hs).1

/-- After a look at it the last sweep is less than the time between two sweeps ago. -/
theorem le_lastSweep_sweepIfDue (l : Limiter) (now : Int) :
    now - max (l.quota.sweepMs - 1) 0 ≤ (l.sweepIfDue now).state.lastSweep := by
  unfold Limiter.sweepIfDue
  split
  · show _ ≤ l.lastSweep
    omega
  · show _ ≤ now
    omega

/-- A request opens a window of its own, or counts in one that was opened before. -/
theorem Recent.charge (h : Recent l xs now) (issuer : Json) (tier : Tier) (route : Text) :
    Recent { l with counters := (l.counters.consume l.quota now issuer tier route).1 }
      (xs ++ [⟨now, issuer, tier, route⟩]) now := by
  have hswept := h.swept
  have hwindow := l.counters.one_le_window
  refine ⟨hswept, fun s hs => ?_, fun s hs => ?_⟩
  · show l.lastSweep - (l.counters.consume l.quota now issuer tier route).1.window < _
    rw [Counters.window_consume]
    -- a bucket is opened now or has been stored before with the same start
    rcases windowStart_of_mem_consume hs with ⟨-, hnow⟩ | ⟨t, ht, -, hsame⟩
    · omega
    · rw [← hsame]
      exact h.start_gt t ht
  · rcases windowStart_of_mem_consume hs with ⟨hkey, hnow⟩ | ⟨t, ht, hkey, hsame⟩
    · exact ⟨⟨now, issuer, tier, route⟩, by simp, hkey.symm, hnow.symm⟩
    · obtain ⟨x, hx, hxkey, hxnow⟩ := h.opened t ht
      exact ⟨x, List.mem_append_left _ hx, hxkey.trans hkey, hxnow.trans hsame⟩

/-! ## Runs -/

section Runs

variable {ρ : Type} [Receiver ρ]

theorem Recent.perform {s : Limiter × ρ} {c : Call} (h : Recent s.1 xs c.now) :
    Recent (perform s c).state.1 (xs ++ requests [c]) c.now :=
  perform_keeps (fun l xs => Recent l xs c.now) Recent.due
    (fun issuer tier route h => h.charge issuer tier route) Recent.sweep xs h

/-- Each call is made at a reading that is not before the earlier ones, so what they leave is recent
at it. -/
theorem recent_after (q : Quota) {opened : Int} (r : ρ) {calls : List Call}
    (hclock : Run.Ordered Call.now calls) (hopened : ∀ c ∈ calls, opened ≤ c.now) {now : Int}
    (hle : opened ≤ now) (hnow : ∀ c ∈ calls, c.now ≤ now) :
    Recent (Run.after Limiter.perform (start q none opened, r) calls).1 (requests calls) now := by
  induction calls using List.reverseRecOn generalizing now with
  | nil => exact recent_start q hle
  | append_singleton calls c ih =>
    rw [Run.ordered_concat] at hclock
    have hfirst : opened ≤ c.now := hopened c (by simp)
    have hbefore := ih hclock.1 (fun d hd => hopened d (List.mem_append_left _ hd)) hfirst hclock.2
    rw [Run.after_concat, requests_append]
    exact hbefore.perform.later (hnow c (by simp))

end Runs

/-! ## The number of buckets -/

/-- The key under which the requests of a pair count. -/
def keyOfPair (p : Text × Text) : Text := p.1 ++ .scalar ':' :: p.2

/-- Buckets that go back to requests of distinct keys are no more than the pairs of these. -/
theorem size_le_pairs {c : Counters} (hkeys : c.DistinctKeys) {xs : List Request}
    (h : ∀ s ∈ c.slots, ∃ x ∈ xs, x.key = s.key) : c.size ≤ (xs.map Request.pair).dedup.length := by
  -- each key is that of a pair that asked, so there are no more keys than pairs
  have hsub : c.slots.map Slot.key ⊆ (xs.map Request.pair).dedup.map keyOfPair := by
    intro key hkey
    obtain ⟨s, hs, rfl⟩ := List.mem_map.mp hkey
    obtain ⟨x, hx, hxkey⟩ := h s hs
    rw [← hxkey]
    exact List.mem_map.mpr ⟨x.pair, List.mem_dedup.mpr (List.mem_map_of_mem hx), rfl⟩
  calc c.size = (c.slots.map Slot.key).length := (List.length_map Slot.key).symm
    _ ≤ ((xs.map Request.pair).dedup.map keyOfPair).length :=
        (List.subperm_of_subset hkeys hsub).length_le
    _ = (xs.map Request.pair).dedup.length := List.length_map keyOfPair

/-- **The buckets of a limiter are bounded by recent traffic**, if it starts without any and the clock
does not go back. Right after a request, each bucket has opened its window less than a window and the
time between two sweeps ago. So there are no more buckets than pairs were asked for since then,
however often the limiter sweeps. -/
theorem footprint_of_run {ρ : Type} [Receiver ρ] (q : Quota) (given : Option Counters)
    (hgiven : ∀ c, given = some c → c.size = 0) (opened : Int) (r : ρ) (past : List Call)
    (now : Int) (issuer : Json) (tier : Tier) (route : Text)
    (hopened : ∀ c ∈ past ++ [⟨now, .consume issuer tier route⟩], opened ≤ c.now)
    (hclock : Run.Ordered Call.now (past ++ [⟨now, .consume issuer tier route⟩])) :
    let calls := past ++ [⟨now, .consume issuer tier route⟩]
    let counters := (Run.after perform (start q given opened, r) calls).1.counters
    let horizon := now - max 1 q.windowMs - max (q.sweepMs - 1) 0
    (∀ s ∈ counters.slots, horizon < s.bucket.windowStart)
      ∧ counters.size ≤ (((requests calls).filter (horizon < ·.now)).map Request.pair).dedup.length
      := by
  have hstart : start q given opened = start q none opened := by
    cases given with
    | none => rfl
    | some c => exact start_some_of_size_eq (hgiven c rfl) q opened
  intro calls counters horizon
  rw [Run.ordered_concat] at hclock
  have hnow : opened ≤ now := hopened ⟨now, .consume issuer tier route⟩ (by simp)
  let s := Run.after perform (start q none opened, r) past
  have hbefore : Recent s.1 (requests past) now :=
    recent_after q r hclock.1 (fun c hc => hopened c (List.mem_append_left _ hc)) hnow hclock.2
  have hcounters : counters = (s.1.consume s.2 now issuer tier route).state.1.counters := by
    show (Run.after perform (start q given opened, r) calls).1.counters = _
    rw [hstart, Run.after_concat]
    rfl
  have hquota : s.1.quota = q := quota_after q opened r past
  have hwindow : s.1.window = max 1 q.windowMs := window_after q opened r past
  have hafter : Recent (s.1.consume s.2 now issuer tier route).state.1 (requests calls) now := by
    have hperformed := hbefore.perform (c := ⟨now, .consume issuer tier route⟩)
    rw [requests_append]
    exact hperformed
  -- a window before the last sweep, and the sweep an interval before now at most
  have hrecent : ∀ t ∈ counters.slots, horizon < t.bucket.windowStart := by
    intro t ht
    rw [hcounters] at ht
    have hgt := hafter.start_gt t ht
    have hswept := le_lastSweep_sweepIfDue s.1 now
    rw [window_consume, limiter_consume, hwindow] at hgt
    rw [hquota] at hswept
    dsimp only [horizon] at hgt ⊢
    omega
  refine ⟨hrecent, size_le_pairs ?_ fun t ht => ?_⟩
  · exact distinctKeys_after (by rw [hstart]; exact distinctKeys_ofWindow q.windowMs) calls
  · rw [hcounters] at ht
    obtain ⟨x, hx, hkey, hxnow⟩ := hafter.opened t ht
    rw [← hcounters] at ht
    have hlater : horizon < x.now := by
      rw [hxnow]
      exact hrecent t ht
    exact ⟨x, List.mem_filter.mpr ⟨hx, decide_eq_true hlater⟩, hkey⟩

/-- Of three pairs the oldest is gone after the sweep at the last request. -/
theorem footprint_of_three_pairs :
    let q : Quota := { windowMs := 10, sweepMs := 3 }
    let past : List Call :=
      [⟨0, .consume (.ofString "a") .free "/x"⟩, ⟨4, .consume (.ofString "b") .paid "/x"⟩]
    let calls := past ++ [⟨12, .consume (.ofString "b") .free "/y"⟩]
    let counters := (Run.after perform (start q none 0, Listener.broken) calls).1.counters
    let horizon : Int := 12 - max 1 q.windowMs - max (q.sweepMs - 1) 0
    (∀ c ∈ calls, 0 ≤ c.now) ∧ Run.Ordered Call.now calls ∧ horizon = 0 ∧ counters.size = 2
      ∧ (∀ s ∈ counters.slots, horizon < s.bucket.windowStart)
      ∧ counters.size ≤ (((requests calls).filter (horizon < ·.now)).map Request.pair).dedup.length
      := by
  intro q past calls counters horizon
  have hopened : ∀ c ∈ calls, 0 ≤ c.now := by decide
  have hclock : Run.Ordered Call.now calls := by decide
  have hcount : counters.size = 2 := by decide
  have hfootprint := footprint_of_run q none nofun 0 Listener.broken past 12 (.ofString "b") .free
    "/y" hopened hclock
  refine ⟨hopened, hclock, rfl, hcount, ?_⟩
  -- the two sides read alike, so the run need not be unfolded
  with_reducible exact hfootprint

end Limiter

end IssuerGate
