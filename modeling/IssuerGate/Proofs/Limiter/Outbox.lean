import IssuerGate.Proofs.Job.Delivery
import IssuerGate.Proofs.Job.Queue
import IssuerGate.Proofs.Limiter.Passage

/-!
# IssuerGate — from decisions to jobs

A limiter hands its events to an immediate dispatcher, which adds a job for each to the queue of the
process, from where somebody drains them now and then. Whoever drains sees what the limiter did
since the last time, as far as the queue could keep it:

* **`Passage.told`** — the jobs that a request calls for, written out member by member from what is
  seen of it: one for a denied request, one for a free issuer's request that sets the flag of its
  bucket, and none else.
* **`told_through`** — these are the jobs of the events that the limiter passes on.
* **`Filled`** — the dispatcher is idle, and its queue holds the newest of the jobs called for since
  the last drain. Each call keeps that, at any reading of the clock (`Filled.perform`).
* **`drained_of_run`** — so each drain gives the newest of them, in order.
-/

namespace IssuerGate

namespace Limiter

open Counters

/-! ## What a request calls for -/

/-- Does the request set the flag of its bucket? -/
def Passage.setsFlag (p : Passage) : Bool := p.left.any (·.nudged) && !p.wasNudged

/-- The jobs that a request calls for. -/
def Passage.told (p : Passage) : List Job :=
  match p.decision, p.left with
  | some d, some b =>
    if !d.allowed then
      [⟨.exceeded,
        [
          ("issuer_id", p.request.issuer), ("tier", .str p.request.tier.name),
          ("route", .str p.request.route), ("timestamp", .int p.request.now),
          ("limit", .int d.limit), ("count", .int b.count)
        ]⟩]
    else if p.request.tier = .free ∧ p.setsFlag then
      [⟨.upgradeNotice,
        [
          ("issuer_id", p.request.issuer), ("route", .str p.request.route),
          ("limit", .int d.limit), ("count", .int b.count)
        ]⟩]
    else []
  | _, _ => []

/-- **The jobs called for are those of the events passed on.** The cases are those of the charge; a
nudge is given exactly where it sets the flag. -/
theorem told_through (window : Int) (q : Quota) (x : Request) (b? : Option Bucket) :
    (Passage.through window q x b?).told
      = (Passage.through window q x b?).events.map Event.job := by
  have hwas := nudged_roll window q x b?
  unfold Passage.told Passage.setsFlag
  rw [← hwas]
  unfold Passage.through
  dsimp only
  obtain ⟨-, hcharge⟩ | ⟨-, ⟨e, hcharge⟩ | ⟨nudge, hnudges, hcharge⟩⟩ :=
    Bucket.charge_cases window q x.now x.tier b?
  · rw [hcharge]
    rfl
  · rw [hcharge]
    rfl
  · rw [hcharge]
    -- which bucket was rolled over does not matter from here on, only its flag
    generalize Bucket.roll window x.now x.tier b? = rolled at hnudges
    cases nudge with
    | true =>
      obtain ⟨htier, hfresh⟩ := of_nudges hnudges
      have hset : (rolled.nudged || true) && !rolled.nudged := by
        have hrolled : rolled.nudged = false := hfresh
        rw [hrolled]
        rfl
      dsimp only [Except.toOption, Option.map, decision, Option.any]
      rw [if_neg (by decide), if_pos ⟨htier, hset⟩]
      rfl
    | false =>
      have hunset : ¬ ((rolled.nudged || false) && !rolled.nudged) := by simp
      dsimp only [Except.toOption, Option.map, decision, Option.any]
      rw [if_neg (by decide), if_neg fun h => hunset h.2]
      rfl

/-- The jobs of what is heard of a call are what its request is told of. -/
theorem map_job_heard {ρ : Type} [Receiver ρ] {s : Limiter × ρ} (h : s.1.counters.DistinctKeys)
    (c : Call) :
    (heard s.1 c).map Event.job = (passage? s c).toList.flatMap Passage.told := by
  rw [heard_eq, passage?_eq h]
  cases c.request? with
  | none => rfl
  | some x =>
    have htold := told_through s.1.window s.1.quota x (s.1.counters.get? x.issuer x.route)
    simpa using htold.symm

end Limiter

/-! ## An idle dispatcher -/

namespace Dispatcher

/-- A dispatcher that runs each job as it is submitted, and refuses none. -/
structure Idle (d : Dispatcher Backend) : Prop where
  immediate : d.immediate = true
  pending : d.pending = []
  closed : d.closed = false

theorem Idle.accepts {d : Dispatcher Backend} (h : d.Idle) : d.accepts = true := by
  have hone := d.one_le_maxPending
  unfold Dispatcher.accepts
  rw [h.closed, h.pending]
  simp only [List.length_nil, Bool.not_false, Bool.true_and, decide_eq_true_eq]
  omega

/-- Events that an idle dispatcher receives are added to its queue. -/
theorem Idle.receiveAll {d : Dispatcher Backend} (h : d.Idle) {q : Job.Queue}
    (hsink : d.sink = .memory q) (es : List Event) :
    (Limiter.receiveAll d es).Idle
      ∧ (Limiter.receiveAll d es).sink = .memory ((es.map Event.job).foldl Job.Queue.push q) := by
  induction es generalizing d q with
  | nil => exact ⟨h, hsink⟩
  | cons e es ih =>
    -- a job is delivered at once, into the queue in memory
    have hsubmit : (Receiver.receive d e).state
        = { d with sink := .memory (q.push e.job) } := by
      show (d.submit e.job).state = _
      rw [submit_of_accepts h.accepts, if_pos h.immediate, hsink]
      rfl
    have hnext : Dispatcher.Idle { d with sink := .memory (q.push e.job) } :=
      ⟨h.immediate, h.pending, h.closed⟩
    show (Limiter.receiveAll (Receiver.receive d e).state es).Idle
      ∧ (Limiter.receiveAll (Receiver.receive d e).state es).sink = _
    rw [hsubmit]
    exact ih hnext rfl

end Dispatcher

/-! ## The limiter, the queue and who drains it -/

namespace Outbox

open Limiter (Passage)

inductive Call where
  | limiter (c : Limiter.Call)
  | drain

inductive Answer where
  | limiter (a : Limiter.Answer)
  | drained (jobs : List Job)

/-- A call of the limiter, or a drain of the queue behind it. Other backends hold nothing that could
be drained. -/
def perform (s : Limiter × Dispatcher Backend) : Call → Step (Limiter × Dispatcher Backend) Answer
  | .limiter c =>
    let x := Limiter.perform s c
    ⟨x.state, x.log, .limiter x.answer⟩
  | .drain =>
    match s.2.sink with
    | .memory q => ⟨(s.1, { s.2 with sink := .memory q.drain.1 }), [], .drained q.drain.2⟩
    | _ => ⟨s, [], .drained []⟩

def Call.drains : Call → Bool
  | .drain => true
  | .limiter _ => false

/-- What is seen of the request that a call asks to charge. -/
def passage? (m : (Limiter × Dispatcher Backend) × Call) : Option Passage :=
  match m.2 with
  | .limiter c => Limiter.passage? m.1 c
  | .drain => none

/-- The jobs called for in a run since its last drain. -/
def told (first : Limiter × Dispatcher Backend) (calls : List Call) : List Job :=
  (((Run.moments perform first calls).rtakeWhile fun m => !m.2.drains).filterMap passage?).flatMap
    Passage.told

/-- A call of the limiter adds what its request is told of. -/
theorem told_concat_limiter (first : Limiter × Dispatcher Backend) (calls : List Call)
    (c : Limiter.Call) :
    told first (calls ++ [.limiter c])
      = told first calls
        ++ (Limiter.passage? (Run.after perform first calls) c).toList.flatMap Passage.told := by
  unfold told
  rw [Run.moments_concat, List.rtakeWhile_concat_pos _ _ _ rfl, List.filterMap_append,
    List.flatMap_append]
  congr 1

theorem told_concat_drain (first : Limiter × Dispatcher Backend) (calls : List Call) :
    told first (calls ++ [.drain]) = [] := by
  unfold told
  rw [Run.moments_concat, List.rtakeWhile_concat_neg _ _ _ Bool.false_ne_true]
  rfl

/-- Between two calls: the dispatcher is idle, and its queue holds the newest of the jobs called for
since the last drain. -/
structure Filled (s : Limiter × Dispatcher Backend) (js : List Job) : Prop where
  distinct : s.1.counters.DistinctKeys
  idle : s.2.Idle
  newest : ∃ q, s.2.sink = .memory q ∧ q.capacity = 1000 ∧ q.jobs = js.rtake q.capacity

theorem filled_start {l : Limiter} (h : l.counters.DistinctKeys) (maxPending : Int) :
    Filled (l, .start (.memory .standard) maxPending true) [] where
  distinct := h
  idle := ⟨rfl, rfl, rfl⟩
  newest := ⟨.standard, rfl, rfl, (List.rtake_nil _).symm⟩

variable {s : Limiter × Dispatcher Backend} {js : List Job}

/-- What a call is told of is queued behind the jobs that wait, the oldest of which may drop out. -/
theorem Filled.limiter (h : Filled s js) (c : Limiter.Call) :
    Filled (perform s (.limiter c)).state
      (js ++ (Limiter.passage? s c).toList.flatMap Passage.told) := by
  obtain ⟨q, hq, hcapacity, hjobs⟩ := h.newest
  have hreceiver : (perform s (.limiter c)).state.2 = Limiter.receiveAll s.2 (Limiter.heard s.1 c) :=
    Limiter.receiver_perform s.1 s.2 c
  -- the dispatcher adds a job for each event, and these are the jobs called for
  obtain ⟨hidle, hsink⟩ := h.idle.receiveAll hq (Limiter.heard s.1 c)
  rw [Limiter.map_job_heard h.distinct, ← hreceiver] at hsink
  rw [← hreceiver] at hidle
  have hadded := Job.Queue.jobs_foldl_push hjobs
    ((Limiter.passage? s c).toList.flatMap Passage.told)
  refine ⟨Limiter.distinctKeys_perform h.distinct c, hidle, _, hsink, hadded.1.trans hcapacity, ?_⟩
  rw [hadded.1]
  exact hadded.2

/-- A drain takes all jobs that the queue has kept, and leaves it empty. -/
theorem Filled.drain (h : Filled s js) :
    Filled (perform s .drain).state [] ∧ (perform s .drain).answer = .drained (js.rtake 1000) := by
  obtain ⟨q, hq, hcapacity, hjobs⟩ := h.newest
  unfold perform
  dsimp only
  rw [hq]
  refine ⟨⟨h.distinct, ⟨h.idle.immediate, h.idle.pending, h.idle.closed⟩, ?_⟩, ?_⟩
  · exact ⟨q.drain.1, rfl, hcapacity, (List.rtake_nil _).symm⟩
  · rw [← hcapacity, ← hjobs]
    rfl

/-- **Each run keeps the queue filled with the newest jobs.** Induction on the calls from the back:
a call of the limiter adds to what was called for, a drain starts anew. -/
theorem filled_after {l : Limiter} (h : l.counters.DistinctKeys) (maxPending : Int)
    (calls : List Call) :
    let first : Limiter × Dispatcher Backend := (l, .start (.memory .standard) maxPending true)
    Filled (Run.after perform first calls) (told first calls) := by
  intro first
  -- from the back: the last call either adds to the queue or empties it
  induction calls using List.reverseRecOn with
  | nil => exact filled_start h maxPending
  | append_singleton calls c ih =>
    rw [Run.after_concat]
    cases c with
    | limiter c =>
      rw [told_concat_limiter]
      exact ih.limiter c
    | drain =>
      rw [told_concat_drain]
      exact ih.drain.1

theorem quota_after (first : Limiter × Dispatcher Backend) (calls : List Call) :
    (Run.after perform first calls).1.quota = first.1.quota := by
  refine Run.after_invariant (fun s : Limiter × Dispatcher Backend => s.1.quota = first.1.quota)
    (fun s c hs => ?_) rfl calls
  cases c with
  | limiter c => exact (Limiter.quota_perform s c).trans hs
  | drain =>
    unfold perform
    dsimp only
    split <;> exact hs

/-- **What a drain gives, and what the jobs in it say.** Whatever a limiter over an immediate
dispatcher is asked in between, at whichever readings of the clock:

* a drain gives the newest thousand of the jobs called for since the last drain, in order;
* each decision names the limit of the caller's tier. A denied request finds its bucket at that limit
  or above and leaves it so; an admitted one leaves the count that includes it. -/
theorem drained_of_run (l : Limiter) (hdistinct : l.counters.DistinctKeys) (maxPending : Int)
    (past : List Call) :
    let first : Limiter × Dispatcher Backend := (l, .start (.memory .standard) maxPending true)
    (perform (Run.after perform first past) .drain).answer = .drained ((told first past).rtake 1000)
      ∧ ∀ p ∈ (Run.moments perform first past).filterMap passage?, ∀ d ∈ p.decision,
        d.limit = l.quota.limitFor p.request.tier
          ∧ ∃ b, p.left = some b
            ∧ if d.allowed then b.count = p.earlier + 1
              else b.count = p.earlier ∧ d.limit ≤ b.count := by
  intro first
  refine ⟨(filled_after hdistinct maxPending past).drain.2, fun p hp d hd => ?_⟩
  -- a passage is made at a moment of the run, and then both facts hold of the limiter
  obtain ⟨m, hm, hpassage⟩ := List.mem_filterMap.mp hp
  obtain ⟨earlier, later, -, hstate⟩ := Run.exists_of_mem_moments hm
  have hkeys : m.1.1.counters.DistinctKeys := by
    rw [hstate]
    exact (filled_after hdistinct maxPending earlier).distinct
  have hquota : m.1.1.quota = l.quota := by
    rw [hstate]
    exact quota_after first earlier
  obtain ⟨s, c⟩ := m
  cases c with
  | limiter c =>
    have hthrough := (Limiter.passage?_eq hkeys c).symm.trans hpassage
    obtain ⟨x, -, rfl⟩ := Option.map_eq_some_iff.mp hthrough
    obtain ⟨b, hb, hlimit, hcount⟩ := Limiter.left_of_decision hd
    exact ⟨hlimit.trans (congrArg (Quota.limitFor · x.tier) hquota), b, hb, hcount⟩
  | drain => cases hpassage

/-- A drain takes the notice of the first request. Then a denied request, one that is admitted
because its clock went ahead, and one that is denied because its clock went back. -/
theorem drained_of_run_of_clock_back :
    let q : Quota := { windowMs := 10, freeLimit := 1, upgradeThreshold := .ofDecimal false 1 0 }
    let ask (now : Int) : Call := .limiter ⟨now, .consume (.ofString "a") .free "/x"⟩
    let first : Limiter × Dispatcher Backend :=
      (.start q none 0, .start (.memory .standard) 1 true)
    let past : List Call := [ask 0, .drain, ask 1, .limiter ⟨2, .sweep⟩, ask 20, ask 3]
    (Limiter.start q none 0).counters.DistinctKeys
      ∧ (perform (Run.after perform first past) .drain).answer
        = .drained
          [
            .exceeded (.ofString "a") "free" "/x" 1 1 1, .upgradeNotice (.ofString "a") "/x" 1 1,
            .exceeded (.ofString "a") "free" "/x" 3 1 1
          ] := by
  intro q ask first past
  have hdistinct : (Limiter.start q none 0).counters.DistinctKeys := Counters.distinctKeys_ofWindow 10
  have htold : told first past
      = [
          .exceeded (.ofString "a") "free" "/x" 1 1 1, .upgradeNotice (.ofString "a") "/x" 1 1,
          .exceeded (.ofString "a") "free" "/x" 3 1 1
        ] := by
    dsimp only [past, first, ask, q]
    rfl
  -- far fewer than a thousand, so none has dropped out
  have hall : (told first past).rtake 1000 = told first past := by
    rw [htold]
    simp [List.rtake]
  have hdrained := (drained_of_run (.start q none 0) hdistinct 1 past).1
  rw [hall, htold] at hdrained
  exact ⟨hdistinct, hdrained⟩

end Outbox

end IssuerGate
