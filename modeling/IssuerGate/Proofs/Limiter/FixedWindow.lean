import IssuerGate.Proofs.Limiter.Run

/-!
# IssuerGate — the limiter as independent fixed windows

What a limiter promises to one issuer on one route does not mention keys, buckets or sweeps. It is a
window that starts with the first request, lasts for the window length, admits so many requests and
starts again with the first request after its end. `FixedWindow` is that promise, as a function of
the pair's own requests alone.

* **`replay_eq_lane`** — the lane of a key, read as windows, is the replay of its requests.
* **`consume_eq_fixedWindow`** — each decision in each run of a limiter is the one that the pair's
  own earlier requests call for, whatever other pairs ask and whenever sweeps happen.
-/

namespace IssuerGate

/-! ## The promise -/

/-- A window of one issuer on one route: when it started and how many requests it has admitted. -/
structure FixedWindow where
  start : Int
  admitted : Nat
deriving DecidableEq, Repr

namespace FixedWindow

open Counters (Request)

variable (length : Int) (q : Quota)

/-- The window in which a request falls: it starts anew once its length has passed. -/
def current (now : Int) : Option FixedWindow → FixedWindow
  | none => ⟨now, 0⟩
  | some w => if length ≤ now - w.start then ⟨now, 0⟩ else w

/-- The decision on a request, and the window after it. -/
def step (w? : Option FixedWindow) (now : Int) (tier : Tier) : FixedWindow × Decision :=
  let w := current length now w?
  let limit := q.limitFor tier
  if w.admitted < limit then
    (⟨w.start, w.admitted + 1⟩, ⟨true, limit, limit - w.admitted - 1, w.start + length⟩)
  else (w, ⟨false, limit, 0, w.start + length⟩)

/-- The window that the requests of one pair leave. -/
def replay (xs : List Request) : Option FixedWindow :=
  xs.foldl (fun w? x => some (step length q w? x.now x.tier).1) none

/-- The decision on a request of a pair that has made some requests before. -/
def decide (earlier : List Request) (now : Int) (tier : Tier) : Decision :=
  (step length q (replay length q earlier) now tier).2

end FixedWindow

/-- What a bucket says of its window. -/
def Bucket.fixedWindow (b : Bucket) : FixedWindow := ⟨b.windowStart, b.count⟩

/-- Rolling over a bucket starts a new window exactly when the promise does. -/
theorem Bucket.fixedWindow_roll (window now : Int) (tier : Tier) (b? : Option Bucket) :
    (roll window now tier b?).fixedWindow
      = FixedWindow.current window now (b?.map fixedWindow) := by
  cases b? with
  | none => rfl
  | some b =>
    by_cases hb : now - b.windowStart < window
    · have hle : ¬ window ≤ now - b.windowStart := by omega
      simp [roll, Option.filter, isLive, hb, hle, FixedWindow.current, fixedWindow]
    · have hle : window ≤ now - b.windowStart := by omega
      simp [roll, Option.filter, isLive, hb, hle, FixedWindow.current, fixedWindow]

theorem Bucket.charge_eq_step {q : Quota} (hq : q.HasMark) (window now : Int) (tier : Tier)
    (b? : Option Bucket) :
    (charge window q now tier b?).1.fixedWindow
        = (FixedWindow.step window q (b?.map fixedWindow) now tier).1
      ∧ (charge window q now tier b?).2.map (Limiter.decision window)
        = .ok (FixedWindow.step window q (b?.map fixedWindow) now tier).2 := by
  have hroll := fixedWindow_roll window now tier b?
  have hstart : (FixedWindow.current window now (b?.map fixedWindow)).start
      = (roll window now tier b?).windowStart := by rw [← hroll]; rfl
  have hcount : (FixedWindow.current window now (b?.map fixedWindow)).admitted
      = (roll window now tier b?).count := by rw [← hroll]; rfl
  unfold FixedWindow.step
  dsimp only
  rw [hstart, hcount]
  by_cases hlimit : ((roll window now tier b?).count : Int) < q.limitFor tier
  · obtain ⟨hs, hc, hverdict⟩ := charge_of_lt hlimit
    obtain ⟨v, hv⟩ := exists_verdict_charge hq window now tier b?
    obtain ⟨hallowed, hvlimit, hbucket⟩ := hverdict v hv
    rw [if_pos hlimit]
    refine ⟨?_, ?_⟩
    · show FixedWindow.mk _ _ = _
      rw [hs, hc]
    · rw [hv]
      show Except.ok (Limiter.decision window v) = _
      -- the counted request is within the limit, so nothing is cut off at zero
      have hremaining : max (q.limitFor tier - ((roll window now tier b?).count + 1 : Nat)) 0
          = q.limitFor tier - (roll window now tier b?).count - 1 := by omega
      simp only [Limiter.decision, hallowed, hvlimit, hbucket, hs, hc, if_true, hremaining]
  · have hle : q.limitFor tier ≤ (roll window now tier b?).count := by omega
    rw [if_neg hlimit, charge_of_le hle]
    exact ⟨hroll, rfl⟩

namespace Limiter

open Counters

/-- The window of the reference, after any requests, is that of the bucket which they leave. -/
theorem replay_eq_lane {q : Quota} (hq : q.HasMark) (window : Int) (xs : List Request) :
    FixedWindow.replay window q xs = (lane window q xs).map Bucket.fixedWindow := by
  induction xs using List.reverseRecOn with
  | nil => rfl
  | append_singleton xs x ih =>
    rw [lane_concat, Option.map_some, (Bucket.charge_eq_step hq window x.now x.tier _).1, ← ih]
    unfold FixedWindow.replay
    rw [List.foldl_append]
    rfl

/-! ## Runs -/

/-- **Each decision is the one that the pair's own earlier requests call for.** -/
theorem consume_eq_fixedWindow {ρ : Type} [Receiver ρ] (q : Quota) (hmark : q.HasMark)
    (opened : Int) (r : ρ) (past : List Call) (x : Request)
    (hclock : Run.Ordered Call.now (past ++ [⟨x.now, .consume x.issuer x.tier x.route⟩]))
    (hcolon : ColonFree (requests past ++ [x])) :
    (perform (Run.after perform (start q none opened, r) past)
        ⟨x.now, .consume x.issuer x.tier x.route⟩).answer
      = .decided (.ok (FixedWindow.decide (max 1 q.windowMs) q (ofPair x.pair (requests past))
          x.now x.tier)) := by
  rw [Run.ordered_concat] at hclock
  have htracks := tracks_after q opened r hclock.1 hclock.2
  have hanswer := answer_consume_of_tracks (quota_after q opened r past) htracks
    (Run.after perform (start q none opened, r) past).2 x.issuer x.tier x.route
  have hown : ofKey (bucketKey x.issuer x.route) (requests past) = ofPair x.pair (requests past) :=
    hcolon.ofKey_eq_ofPair (x := x) (by simp) (fun y hy => by simp [hy])
  rw [window_after, hown, (Bucket.charge_eq_step hmark _ _ _ _).2, ← replay_eq_lane hmark] at hanswer
  exact congrArg Answer.decided hanswer

/-- A pair is denied at its limit and admitted in a new window, past a neighbour and two sweeps. -/
theorem consume_eq_fixedWindow_of_neighbours :
    let q : Quota := { windowMs := 10, freeLimit := 1, sweepMs := 3 }
    let a : Json := .ofString "a"
    let route : Text := "/x"
    let past : List Call :=
      [⟨0, .consume a .free route⟩, ⟨2, .consume (.ofString "b") .free route⟩, ⟨4, .sweep⟩,
        ⟨9, .consume a .free route⟩]
    let x : Request := ⟨10, a, .free, route⟩
    q.HasMark
      ∧ Run.Ordered Call.now (past ++ [⟨x.now, .consume x.issuer x.tier x.route⟩])
      ∧ ColonFree (requests past ++ [x])
      ∧ (perform (Run.after perform (start q none 0, Listener.journal []) past)
          ⟨x.now, .consume x.issuer x.tier x.route⟩).answer = .decided (.ok ⟨true, 1, 0, 20⟩) := by
  intro q a route past x
  have hmark : q.HasMark := by decide
  have hclock : Run.Ordered Call.now (past ++ [⟨x.now, .consume x.issuer x.tier x.route⟩]) := by
    decide
  have hcolon : ColonFree (requests past ++ [x]) := by decide
  exact ⟨hmark, hclock, hcolon,
    consume_eq_fixedWindow q hmark 0 (Listener.journal []) past x hclock hcolon⟩

end Limiter

end IssuerGate
