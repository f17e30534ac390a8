import IssuerGate.Limiter
import IssuerGate.Proofs.Counters.Lane
import Mathlib.Data.List.Induction

/-!
# IssuerGate — runs of a limiter

A limiter is asked to charge requests, to sweep, to show a bucket and to report. `Limiter.perform`
is one such call at a clock reading, with any receiver behind it; `Run.after` and `Run.transcript`
make runs of it.

* **`perform_keeps`** — what a due sweep, a charge and a sweep on call keep, every call keeps.
* **`tracks_after`** — as long as the clock does not go back, the counters of a limiter that was
  started with none agree with the lanes of the requests it was asked to charge.
* **`decisions_eq_lane`** — the decisions on the requests of one key are, in order, those of its
  lane. Requests of other keys and sweeps, on access or on call, have no say in them.
-/

namespace IssuerGate.Limiter

open Counters

/-! ## Calls -/

/-- What a limiter can be asked. -/
inductive Action where
  | consume (issuer : Json) (tier : Tier) (route : Text)
  | sweep
  | get (issuer : Json) (route : Text)
  | usage
deriving Repr

/-- Something that a limiter is asked at a reading of the clock. -/
structure Call where
  now : Int
  action : Action
deriving Repr

/-- The answer to a call. -/
inductive Answer where
  | decided (outcome : Except Binary64.Fault Decision)
  | swept (dropped : Nat)
  | stored (bucket : Option Bucket)
  | reported (rows : List UsageRow)

/-- One call of a limiter with a receiver behind it. -/
def perform {ρ : Type} [Receiver ρ] (s : Limiter × ρ) (c : Call) : Step (Limiter × ρ) Answer :=
  match c.action with
  | .consume issuer tier route =>
    let x := s.1.consume s.2 c.now issuer tier route
    ⟨x.state, x.log, .decided x.answer⟩
  | .sweep => ⟨(s.1.sweep c.now, s.2), [], .swept (s.1.counters.expired c.now)⟩
  | .get issuer route => ⟨s, [], .stored (s.1.counters.get? issuer route)⟩
  | .usage => ⟨s, [], .reported (s.1.usage c.now)⟩

/-- The request that a call asks to charge. -/
def Call.request? (c : Call) : Option Request :=
  match c.action with
  | .consume issuer tier route => some ⟨c.now, issuer, tier, route⟩
  | _ => none

/-- The requests of some calls, in order. -/
def requests (calls : List Call) : List Request := calls.filterMap Call.request?

/-- The request of a line of a transcript and the decision on it. -/
def decided? : Call × Answer → Option (Request × Except Binary64.Fault Decision)
  | (⟨now, .consume issuer tier route⟩, .decided outcome) =>
    some (⟨now, issuer, tier, route⟩, outcome)
  | _ => none

theorem requests_append (first second : List Call) :
    requests (first ++ second) = requests first ++ requests second :=
  List.filterMap_append

theorem requests_singleton (c : Call) : requests [c] = c.request?.toList := by
  obtain ⟨now, action⟩ := c
  cases action <;> rfl

/-- A request is made at the reading of its call. -/
theorem now_of_request? {c : Call} {x : Request} (h : c.request? = some x) : x.now = c.now := by
  obtain ⟨now, action⟩ := c
  cases action with
  | consume issuer tier route =>
    cases h
    rfl
  | sweep => cases h
  | get issuer route => cases h
  | usage => cases h

theorem ordered_requests {calls : List Call} (h : Run.Ordered Call.now calls) :
    Run.Ordered Request.now (requests calls) :=
  h.filterMap fun _ _ hx => now_of_request? hx

/-! ## One call -/

section Step

variable {ρ : Type} [Receiver ρ]

/-- Before a consume a limiter is swept or left as it is. -/
theorem sweepIfDue_cases (l : Limiter) (now : Int) :
    (l.sweepIfDue now).state = l
      ∨ (l.sweepIfDue now).state = { l with counters := l.counters.sweep now, lastSweep := now } := by
  unfold sweepIfDue
  split
  · exact Or.inl rfl
  · exact Or.inr rfl

theorem quota_sweepIfDue (l : Limiter) (now : Int) : (l.sweepIfDue now).state.quota = l.quota := by
  rcases sweepIfDue_cases l now with h | h <;> rw [h]

theorem window_sweepIfDue (l : Limiter) (now : Int) :
    (l.sweepIfDue now).state.counters.window = l.counters.window := by
  rcases sweepIfDue_cases l now with h | h <;> rw [h]
  exact window_sweep l.counters now

/-- What a consume leaves of the limiter: perhaps swept, and charged. -/
theorem limiter_consume (l : Limiter) (r : ρ) (now : Int) (issuer : Json) (tier : Tier)
    (route : Text) :
    (l.consume r now issuer tier route).state.1
      = { (l.sweepIfDue now).state with
          counters := ((l.sweepIfDue now).state.counters.consume l.quota now issuer tier route).1 }
      := by
  unfold consume
  dsimp only
  rw [quota_sweepIfDue]
  split
  · rfl
  · split <;> rfl

/-- What a consume answers: the decision on the verdict of the counters. -/
theorem answer_consume (l : Limiter) (r : ρ) (now : Int) (issuer : Json) (tier : Tier)
    (route : Text) :
    (l.consume r now issuer tier route).answer
      = ((l.sweepIfDue now).state.counters.consume l.quota now issuer tier route).2.map
          (decision l.window) := by
  -- the decision is made with the window after the consume, which is the one before
  have hwindow : window { (l.sweepIfDue now).state with
      counters := ((l.sweepIfDue now).state.counters.consume l.quota now issuer tier route).1 }
      = l.window := by
    show (Counters.consume _ _ _ _ _ _).1.window = l.counters.window
    rw [window_consume, window_sweepIfDue]
  unfold consume
  dsimp only
  rw [quota_sweepIfDue]
  split
  · next e he => rw [he]; rfl
  · next v hv =>
    rw [hv]
    split <;> exact congrArg (fun w => Except.ok (decision w v)) hwindow

theorem exists_decision_consume {l : Limiter} (hmark : l.quota.HasMark) (r : ρ) (now : Int)
    (issuer : Json) (tier : Tier) (route : Text) :
    ∃ d, (l.consume r now issuer tier route).answer = .ok d := by
  rw [answer_consume, consume_eq_charge]
  obtain ⟨v, hv⟩ := Bucket.exists_verdict_charge hmark (l.sweepIfDue now).state.counters.window now
    tier ((l.sweepIfDue now).state.counters.get? issuer route)
  rw [hv]
  exact ⟨_, rfl⟩

theorem quota_consume (l : Limiter) (r : ρ) (now : Int) (issuer : Json) (tier : Tier)
    (route : Text) : (l.consume r now issuer tier route).state.1.quota = l.quota := by
  rw [limiter_consume]
  exact quota_sweepIfDue l now

theorem window_consume (l : Limiter) (r : ρ) (now : Int) (issuer : Json) (tier : Tier)
    (route : Text) : (l.consume r now issuer tier route).state.1.window = l.window := by
  rw [limiter_consume]
  show (Counters.consume _ _ _ _ _ _).1.window = l.counters.window
  rw [Counters.window_consume, window_sweepIfDue]

theorem quota_perform (s : Limiter × ρ) (c : Call) : (perform s c).state.1.quota = s.1.quota := by
  obtain ⟨now, action⟩ := c
  cases action with
  | consume issuer tier route => exact quota_consume s.1 s.2 now issuer tier route
  | sweep => rfl
  | get issuer route => rfl
  | usage => rfl

theorem window_perform (s : Limiter × ρ) (c : Call) :
    (perform s c).state.1.window = s.1.window := by
  obtain ⟨now, action⟩ := c
  cases action with
  | consume issuer tier route => exact window_consume s.1 s.2 now issuer tier route
  | sweep => rfl
  | get issuer route => rfl
  | usage => rfl

/-- **What a call can do to a limiter**: sweep because a sweep is due, charge its request, or sweep on
call. What each of these keeps, the charge with one request more, every call keeps. -/
theorem perform_keeps {c : Call} (Inv : Limiter → List Request → Prop)
    (hdue : ∀ {l xs}, Inv l xs →
      Inv { l with counters := l.counters.sweep c.now, lastSweep := c.now } xs)
    (hcharge : ∀ {l xs} issuer tier route, Inv l xs →
      Inv { l with counters := (l.counters.consume l.quota c.now issuer tier route).1 }
        (xs ++ [⟨c.now, issuer, tier, route⟩]))
    (hsweep : ∀ {l xs}, Inv l xs → Inv (l.sweep c.now) xs)
    {s : Limiter × ρ} (xs : List Request) (h : Inv s.1 xs) :
    Inv (perform s c).state.1 (xs ++ requests [c]) := by
  obtain ⟨now, action⟩ := c
  rw [requests_singleton]
  cases action with
  -- a consume sweeps if that is due and then charges; the other calls do one thing or none
  | consume issuer tier route =>
    have hswept : Inv (s.1.sweepIfDue now).state xs := by
      rcases sweepIfDue_cases s.1 now with hs | hs
      · rw [hs]
        exact h
      · rw [hs]
        exact hdue h
    show Inv (s.1.consume s.2 now issuer tier route).state.1 (xs ++ [⟨now, issuer, tier, route⟩])
    rw [limiter_consume, ← quota_sweepIfDue s.1 now]
    exact hcharge issuer tier route hswept
  | sweep => simpa [perform, Call.request?] using hsweep h
  | get issuer route => simpa [perform, Call.request?] using h
  | usage => simpa [perform, Call.request?] using h

/-- No call makes two buckets of one key. -/
theorem distinctKeys_perform {s : Limiter × ρ} (h : s.1.counters.DistinctKeys) (c : Call) :
    (perform s c).state.1.counters.DistinctKeys :=
  perform_keeps (fun l _ => l.counters.DistinctKeys) (fun h => h.sweep c.now)
    (fun {l _} issuer tier route h => h.consume l.quota c.now issuer tier route)
    (fun h => h.sweep c.now) [] h

/-- Distinct keys stay so, whatever the clock does. -/
theorem distinctKeys_after {s : Limiter × ρ} (h : s.1.counters.DistinctKeys) (calls : List Call) :
    (Run.after perform s calls).1.counters.DistinctKeys :=
  Run.after_invariant (fun s : Limiter × ρ => s.1.counters.DistinctKeys)
    (fun _ c hs => distinctKeys_perform hs c) h calls

variable {q : Quota} {xs : List Request}

/-- Counters track the same requests after a sweep, as it drops what has run out. -/
theorem tracks_sweepIfDue {l : Limiter} {now : Int} (h : l.counters.Tracks q xs now) :
    (l.sweepIfDue now).state.counters.Tracks q xs now := by
  rcases sweepIfDue_cases l now with hs | hs
  · rw [hs]
    exact h
  · rw [hs]
    exact h.sweep

/-- The decision on a request is that of the lane of its key. -/
theorem answer_consume_of_tracks {l : Limiter} {now : Int} (hq : l.quota = q)
    (h : l.counters.Tracks q xs now) (r : ρ) (issuer : Json) (tier : Tier) (route : Text) :
    (l.consume r now issuer tier route).answer
      = (Bucket.charge l.window q now tier
          (lane l.window q (ofKey (bucketKey issuer route) xs))).2.map (decision l.window) := by
  have hverdict := (tracks_sweepIfDue h).verdict_eq issuer tier route
  rw [window_sweepIfDue] at hverdict
  rw [answer_consume, hq, hverdict]
  rfl

/-- Each call keeps the agreement, for the requests made with this one. -/
theorem tracks_perform {s : Limiter × ρ} {c : Call} (hq : s.1.quota = q)
    (h : s.1.counters.Tracks q xs c.now) :
    (perform s c).state.1.counters.Tracks q (xs ++ requests [c]) c.now := by
  have hkept := perform_keeps (c := c) (fun l xs => l.quota = q ∧ l.counters.Tracks q xs c.now)
    (fun h => ⟨h.1, h.2.sweep⟩)
    (fun issuer tier route h => ⟨h.1, h.1 ▸ h.2.consume issuer tier route⟩)
    (fun h => ⟨h.1, h.2.sweep⟩) xs ⟨hq, h⟩
  exact hkept.2

end Step

/-! ## Runs

A limiter is started at a reading of its own, with no counters given. -/

section Runs

variable {ρ : Type} [Receiver ρ] (q : Quota) (opened : Int) (r : ρ)

theorem quota_after (calls : List Call) :
    (Run.after perform (start q none opened, r) calls).1.quota = q :=
  Run.after_invariant (fun s : Limiter × ρ => s.1.quota = q)
    (fun s c hs => (quota_perform s c).trans hs) rfl calls

/-- A limiter that starts without counters has the window of its quota, which is 1 at least. -/
theorem window_after (calls : List Call) :
    (Run.after perform (start q none opened, r) calls).1.window = max 1 q.windowMs :=
  Run.after_invariant (fun s : Limiter × ρ => s.1.window = max 1 q.windowMs)
    (fun s c hs => (window_perform s c).trans hs) rfl calls

/-- **The counters agree with the lanes after each run in which the clock does not go back.**
Induction on the calls from the back: each call is made at a reading that is not before the earlier
ones, so the agreement after those still holds at it. -/
theorem tracks_after {calls : List Call} (hclock : Run.Ordered Call.now calls) {now : Int}
    (hnow : ∀ c ∈ calls, c.now ≤ now) :
    (Run.after perform (start q none opened, r) calls).1.counters.Tracks q (requests calls) now := by
  induction calls using List.reverseRecOn generalizing now with
  | nil => exact tracks_ofWindow q.windowMs q now
  | append_singleton calls c ih =>
    rw [Run.ordered_concat] at hclock
    have hbefore := ih hclock.1 hclock.2
    have hstep := tracks_perform (quota_after q opened r calls) hbefore
    rw [Run.after_concat, requests_append]
    exact hstep.later (hnow c (by simp))

/-- **The decisions on the requests of one key are those of its lane.** -/
theorem decisions_eq_lane {calls : List Call} (hclock : Run.Ordered Call.now calls)
    (issuer : Json) (route : Text) :
    ((Run.transcript perform (start q none opened, r) calls).filterMap decided?).filter
        (·.1.key = bucketKey issuer route)
      = (Run.transcript (laneStep (max 1 q.windowMs) q) none
          (ofKey (bucketKey issuer route) (requests calls))).map
            (fun line => (line.1, line.2.map (decision (max 1 q.windowMs)))) := by
  -- from the back: the last call answers from what the counters track of all before it
  induction calls using List.reverseRecOn with
  | nil => rfl
  | append_singleton calls c ih =>
    rw [Run.ordered_concat] at hclock
    have htracks := tracks_after q opened r hclock.1 hclock.2
    rw [Run.transcript_concat, List.filterMap_append, List.filter_append, ih hclock.1,
      requests_append, ofKey_append, Run.transcript_append, List.map_append]
    congr 1
    obtain ⟨now, action⟩ := c
    cases action with
    | consume i tier path =>
      have hanswer := answer_consume_of_tracks (quota_after q opened r calls) htracks
        (Run.after perform (start q none opened, r) calls).2 i tier path
      rw [window_after] at hanswer
      let x : Request := ⟨now, i, tier, path⟩
      show List.filter _ [(x, Step.answer _)]
        = List.map _ (Run.transcript _ _ (ofKey (bucketKey issuer route) [x]))
      -- a consume under another key adds to neither side
      by_cases hkey : x.key = bucketKey issuer route
      · have hpath : bucketKey i path = bucketKey issuer route := hkey
        rw [List.filter_cons_of_pos (by simpa using hkey), hanswer, hpath, ← hkey, ofKey_self]
        rfl
      · rw [List.filter_cons_of_neg (by simpa using hkey), ofKey_of_ne hkey]
        rfl
    | sweep => rfl
    | get i path => rfl
    | usage => rfl

end Runs

end IssuerGate.Limiter
