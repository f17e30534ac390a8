import IssuerGate.Proofs.Limiter.Run

/-!
# IssuerGate — the passage of a request through a limiter

From outside one sees of a request what is decided, the bucket that is stored before and after, and
the events that are passed on. All four come from one charge of one bucket:

* **`heard`** — the events that a call passes on, which are the same for each receiver
  (`receiver_perform`).
* **`Passage`** — what is seen of a request, read off the limiter before and after it.
* **`passage?_eq`** — a passage is that of a charge of the stored bucket, whether the limiter sweeps
  first or not.
* **`left_of_decision`** — what a decision says of the stored bucket.
-/

namespace IssuerGate

/-- A list of events receives by adding at its end, and takes all. -/
instance : Receiver (List Event) where
  receive es e := ⟨es ++ [e], [], true⟩

namespace Limiter

open Counters

/-! ## Events -/

section Events

variable {ρ : Type} [Receiver ρ]

/-- A receiver after some events. -/
def receiveAll (r : ρ) (es : List Event) : ρ :=
  es.foldl (fun r e => (Receiver.receive r e).state) r

theorem receiveAll_append (r : ρ) (es fs : List Event) :
    receiveAll r (es ++ fs) = receiveAll (receiveAll r es) fs :=
  List.foldl_append

theorem receiveAll_list (earlier es : List Event) : receiveAll earlier es = earlier ++ es := by
  induction es generalizing earlier with
  | nil => exact (List.append_nil earlier).symm
  | cons e es ih =>
    show receiveAll (earlier ++ [e]) es = _
    rw [ih, List.append_assoc]
    rfl

/-- The events that a call passes on: what an empty list holds after it. -/
def heard (l : Limiter) (c : Call) : List Event := (perform (l, ([] : List Event)) c).state.2

def events (x : Request) : Except Binary64.Fault Verdict → List Event
  | .ok v => (event? x.now x.issuer x.tier x.route v).toList
  | .error _ => []

/-- The receiver gets the events of a consume and is otherwise left alone. -/
theorem receiver_consume (l : Limiter) (r : ρ) (now : Int) (issuer : Json) (tier : Tier)
    (route : Text) :
    (l.consume r now issuer tier route).state.2
      = receiveAll r (events ⟨now, issuer, tier, route⟩
          ((l.sweepIfDue now).state.counters.consume l.quota now issuer tier route).2) := by
  unfold consume
  dsimp only
  rw [quota_sweepIfDue]
  -- an event is received or there is none, and a fault brings none
  split
  · next e he =>
    rw [he]
    rfl
  · next v hv =>
    rw [hv]
    unfold events
    dsimp only
    split
    · next hnone =>
      rw [hnone]
      rfl
    · next e hsome =>
      rw [hsome]
      rfl

/-- A consume makes heard the events of its verdict. -/
theorem heard_consume (l : Limiter) (now : Int) (issuer : Json) (tier : Tier) (route : Text) :
    heard l ⟨now, .consume issuer tier route⟩
      = events ⟨now, issuer, tier, route⟩
          ((l.sweepIfDue now).state.counters.consume l.quota now issuer tier route).2 := by
  show (l.consume ([] : List Event) now issuer tier route).state.2 = _
  rw [receiver_consume, receiveAll_list, List.nil_append]

/-- **Each receiver gets the same events.** -/
theorem receiver_perform (l : Limiter) (r : ρ) (c : Call) :
    (perform (l, r) c).state.2 = receiveAll r (heard l c) := by
  obtain ⟨now, action⟩ := c
  cases action with
  | consume issuer tier route =>
    rw [heard_consume]
    exact receiver_consume l r now issuer tier route
  | sweep => rfl
  | get issuer route => rfl
  | usage => rfl

end Events

/-! ## Passages -/

/-- What is seen of a request: the bucket of the running window that it finds, the decision if there
is one, the bucket that it leaves, and the events that are passed on. -/
structure Passage where
  request : Request
  found : Option Bucket
  decision : Option Decision
  left : Option Bucket
  events : List Event

def Answer.decision? : Answer → Option Decision
  | .decided outcome => outcome.toOption
  | _ => none

def passage? {ρ : Type} [Receiver ρ] (s : Limiter × ρ) (c : Call) : Option Passage :=
  c.request?.map fun x =>
    { request := x
      found := (s.1.counters.get? x.issuer x.route).filter (Bucket.isLive s.1.window x.now)
      decision := (perform s c).answer.decision?
      left := (perform s c).state.1.counters.get? x.issuer x.route
      events := heard s.1 c }

/-- What is seen of a request that is charged on a bucket. -/
def Passage.through (window : Int) (q : Quota) (x : Request) (b? : Option Bucket) : Passage :=
  let charged := Bucket.charge window q x.now x.tier b?
  { request := x
    found := b?.filter (Bucket.isLive window x.now)
    decision := charged.2.toOption.map (Limiter.decision window)
    left := some charged.1
    events := Limiter.events x charged.2 }

/-- Buckets that agree while they are live are the same to a request. -/
theorem Passage.through_congr {window : Int} {x : Request} {b? other : Option Bucket}
    (h : b?.filter (Bucket.isLive window x.now) = other.filter (Bucket.isLive window x.now))
    (q : Quota) : Passage.through window q x b? = Passage.through window q x other := by
  have hcharge : Bucket.charge window q x.now x.tier b?
      = Bucket.charge window q x.now x.tier other := by
    rw [← Bucket.charge_filter_isLive, h, Bucket.charge_filter_isLive]
  unfold Passage.through
  rw [hcharge, h]

/-- A sweep before a charge has no say in it. -/
theorem charge_sweepIfDue {l : Limiter} (h : l.counters.DistinctKeys) (q : Quota) (now : Int)
    (issuer : Json) (tier : Tier) (route : Text) :
    Bucket.charge l.window q now tier ((l.sweepIfDue now).state.counters.get? issuer route)
      = Bucket.charge l.window q now tier (l.counters.get? issuer route) := by
  rcases sweepIfDue_cases l now with hs | hs
  · rw [hs]
  · rw [hs]
    show Bucket.charge l.window q now tier ((l.counters.sweep now).get? issuer route) = _
    rw [get?_sweep h]
    exact Bucket.charge_filter_isLive l.window q now tier _

/-- A consume takes its request past the bucket of its key, as that was before any sweep. -/
theorem passage?_consume {ρ : Type} [Receiver ρ] {s : Limiter × ρ}
    (h : s.1.counters.DistinctKeys) (now : Int) (issuer : Json) (tier : Tier) (route : Text) :
    passage? s ⟨now, .consume issuer tier route⟩
      = some (.through s.1.window s.1.quota ⟨now, issuer, tier, route⟩
          (s.1.counters.get? issuer route)) := by
  -- all four parts are those of the charge after the sweep, which is the charge without it
  have hcharge := charge_sweepIfDue h s.1.quota now issuer tier route
  have houtcome : ((s.1.sweepIfDue now).state.counters.consume s.1.quota now issuer tier route).2
      = (Bucket.charge s.1.window s.1.quota now tier (s.1.counters.get? issuer route)).2 := by
    rw [consume_eq_charge, window_sweepIfDue]
    exact congrArg Prod.snd hcharge
  have hdecision : (perform s ⟨now, .consume issuer tier route⟩).answer.decision?
      = (Bucket.charge s.1.window s.1.quota now tier
          (s.1.counters.get? issuer route)).2.toOption.map (Limiter.decision s.1.window) := by
    show (s.1.consume s.2 now issuer tier route).answer.toOption = _
    rw [answer_consume, houtcome]
    cases (Bucket.charge s.1.window s.1.quota now tier (s.1.counters.get? issuer route)).2 <;> rfl
  have hleft : (perform s ⟨now, .consume issuer tier route⟩).state.1.counters.get? issuer route
      = some (Bucket.charge s.1.window s.1.quota now tier
          (s.1.counters.get? issuer route)).1 := by
    show (s.1.consume s.2 now issuer tier route).state.1.counters.get? issuer route = _
    rw [limiter_consume]
    dsimp only
    rw [consume_eq_charge, get?_set, window_sweepIfDue]
    exact congrArg (some ·.1) hcharge
  unfold passage? Passage.through
  show some (Passage.mk _ _ _ _ _) = some (Passage.mk _ _ _ _ _)
  dsimp only
  rw [hdecision, hleft, heard_consume, houtcome]

/-- **A passage is that of a charge of the stored bucket.** -/
theorem passage?_eq {ρ : Type} [Receiver ρ] {s : Limiter × ρ} (h : s.1.counters.DistinctKeys)
    (c : Call) :
    passage? s c
      = c.request?.map fun x =>
          .through s.1.window s.1.quota x (s.1.counters.get? x.issuer x.route) := by
  obtain ⟨now, action⟩ := c
  cases action with
  | consume issuer tier route => exact passage?_consume h now issuer tier route
  | sweep => rfl
  | get issuer route => rfl
  | usage => rfl

/-- What a call passes on are the events of its passage; there are none without one. -/
theorem heard_eq {ρ : Type} [Receiver ρ] (s : Limiter × ρ) (c : Call) :
    heard s.1 c = (passage? s c).toList.flatMap Passage.events := by
  obtain ⟨now, action⟩ := c
  cases action with
  | consume issuer tier route => exact (List.append_nil _).symm
  | sweep => rfl
  | get issuer route => rfl
  | usage => rfl

/-! ## What a decision says of the bucket -/

/-- The requests counted in the running window before this one. -/
def Passage.earlier (p : Passage) : Nat := (p.found.map (·.count)).getD 0

/-- Has the running window's issuer been nudged before this request? -/
def Passage.wasNudged (p : Passage) : Bool := p.found.any (·.nudged)

/-- A request finds the bucket that is still running, or a new one. -/
theorem roll_eq_found (window : Int) (q : Quota) (x : Request) (b? : Option Bucket) :
    Bucket.roll window x.now x.tier b?
      = (Passage.through window q x b?).found.getD ⟨x.now, 0, x.tier, false⟩ := rfl

theorem count_roll (window : Int) (q : Quota) (x : Request) (b? : Option Bucket) :
    (Bucket.roll window x.now x.tier b?).count = (Passage.through window q x b?).earlier := by
  rw [roll_eq_found window q]
  unfold Passage.earlier
  cases (Passage.through window q x b?).found <;> rfl

theorem nudged_roll (window : Int) (q : Quota) (x : Request) (b? : Option Bucket) :
    (Bucket.roll window x.now x.tier b?).nudged = (Passage.through window q x b?).wasNudged := by
  rw [roll_eq_found window q]
  unfold Passage.wasNudged
  cases (Passage.through window q x b?).found <;> rfl

/-- **A denied request leaves the count that it found, at the limit or above; an admitted one counts
in it.** -/
theorem left_of_decision {window : Int} {q : Quota} {x : Request} {b? : Option Bucket} {d : Decision}
    (h : (Passage.through window q x b?).decision = some d) :
    ∃ b, (Passage.through window q x b?).left = some b ∧ d.limit = q.limitFor x.tier
      ∧ if d.allowed then b.count = (Passage.through window q x b?).earlier + 1
        else b.count = (Passage.through window q x b?).earlier ∧ d.limit ≤ b.count := by
  refine ⟨_, rfl, ?_⟩
  rw [← count_roll]
  unfold Passage.through at h
  dsimp only at h
  -- denied at the limit, failed without a decision, or admitted and counted
  rcases Bucket.charge_cases window q x.now x.tier b? with
    ⟨hlimit, hcharge⟩ | ⟨-, ⟨e, hcharge⟩ | ⟨nudge, -, hcharge⟩⟩
  · rw [hcharge] at h ⊢
    cases h
    exact ⟨rfl, rfl, hlimit⟩
  · rw [hcharge] at h
    cases h
  · rw [hcharge] at h ⊢
    cases h
    exact ⟨rfl, rfl⟩

end Limiter

end IssuerGate
