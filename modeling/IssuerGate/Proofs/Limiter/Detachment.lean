import IssuerGate.Proofs.Limiter.Passage

/-!
# IssuerGate — receivers have no say in decisions

A limiter passes its events on while it serves a request. Its receiver may take them or fail on any
of them, and between two calls it may do what it likes: work off what is pending, close, break and
recover. None of this comes back to the limiter.

* **`Turn`** — a call of the limiter, or something the receiver does by itself.
* **`observed`** — what is seen of the limiter in a run of turns: each call, its answer and the
  limiter that it leaves. It depends on the calls alone (`observed_eq_recorded`).
* **`errors_perform`** — a failure of the receiver leaves one record of an error, and nothing else.
-/

namespace IssuerGate

/-- The records of errors. -/
def Log.errors (log : Log) : Log := log.filter (·.level == .error)

theorem Log.errors_append (first second : Log) :
    (first ++ second).errors = first.errors ++ second.errors :=
  List.filter_append first second

namespace Limiter

/-! ## Turns -/

/-- A turn of a limiter and its receiver. -/
inductive Turn (ρ : Type) where
  | call (c : Call)
  | own (change : ρ → ρ)

def Turn.call? {ρ : Type} : Turn ρ → Option Call
  | call c => some c
  | own _ => none

section Observed

variable {ρ : Type} [Receiver ρ]

/-- Each call of a run of turns, its answer and the limiter that it leaves, in order. -/
def observed : Limiter × ρ → List (Turn ρ) → List (Call × Answer × Limiter)
  | _, [] => []
  | s, .call c :: turns =>
    let x := perform s c
    (c, x.answer, x.state.1) :: observed x.state turns
  | s, .own change :: turns => observed (s.1, change s.2) turns

/-- What is seen of the limiter when its events are only written down. -/
def recorded (l : Limiter) : List Call → List (Call × Answer × Limiter)
  | [] => []
  | c :: calls =>
    let x := perform (l, ([] : List Event)) c
    (c, x.answer, x.state.1) :: recorded x.state.1 calls

/-- **One call leaves the same limiter and gives the same answer in front of each receiver.** -/
theorem perform_eq_recorded (l : Limiter) (r : ρ) (c : Call) :
    (perform (l, r) c).state.1 = (perform (l, ([] : List Event)) c).state.1
      ∧ (perform (l, r) c).answer = (perform (l, ([] : List Event)) c).answer := by
  obtain ⟨now, action⟩ := c
  cases action with
  | consume issuer tier route => simp [perform, limiter_consume, answer_consume]
  | sweep => exact ⟨rfl, rfl⟩
  | get issuer route => exact ⟨rfl, rfl⟩
  | usage => exact ⟨rfl, rfl⟩

/-- What a receiver does by itself is not seen of the limiter, nor is what it does with an event. -/
theorem observed_eq_recorded (l : Limiter) (r : ρ) (turns : List (Turn ρ)) :
    observed (l, r) turns = recorded l (turns.filterMap Turn.call?) := by
  induction turns generalizing l r with
  | nil => rfl
  | cons turn turns ih =>
    -- a call is answered without the receiver; what that does by itself is not seen
    cases turn with
    | call c =>
      obtain ⟨hleft, hanswer⟩ := perform_eq_recorded l r c
      simp only [observed, List.filterMap_cons, Turn.call?, recorded, ← hleft, ← hanswer]
      rw [← ih]
    | own change =>
      simp only [observed, List.filterMap_cons, Turn.call?]
      exact ih l (change r)

end Observed

/-! ## Failures -/

section Failures

variable {ρ : Type} [Receiver ρ]

/-- What a receiver does with each of some events, in order. -/
def receptions (r : ρ) : List Event → List (Step ρ Bool)
  | [] => []
  | e :: es =>
    let x := Receiver.receive r e
    x :: receptions x.state es

/-- The record of a reception that failed. -/
def undelivered : Log := Log.error ["Rate limit side effect dispatch failed"]

/-- The errors of a reception: those the receiver logs itself, and one more if it fails. -/
def troubleOf (x : Step ρ Bool) : Log := x.log.errors ++ if x.answer then [] else undelivered

theorem errors_sweepIfDue (l : Limiter) (now : Int) : (l.sweepIfDue now).log.errors = [] := by
  unfold sweepIfDue
  split
  · rfl
  · dsimp only
    split <;> rfl

theorem errors_reported (e : Event) : (reported e).errors = [] := by
  cases e <;> rfl

/-- Delivering an event logs the error of its reception, if that fails. -/
theorem errors_deliver (r : ρ) (e : Event) :
    (deliver r e).log.errors = troubleOf (Receiver.receive r e) := by
  unfold deliver troubleOf
  rw [Log.errors_append]
  split <;> rfl

/-- **The errors of a call are those of its receptions**, of which there is one at most. -/
theorem errors_perform (s : Limiter × ρ) (c : Call) :
    (perform s c).log.errors = (receptions s.2 (heard s.1 c)).flatMap troubleOf
      ∧ (heard s.1 c).length ≤ 1 := by
  obtain ⟨now, action⟩ := c
  cases action with
  | consume issuer tier route =>
    rw [heard_consume]
    show (s.1.consume s.2 now issuer tier route).log.errors = _ ∧ _
    unfold consume
    dsimp only
    rw [quota_sweepIfDue]
    cases (s.1.sweepIfDue now).state.counters.consume s.1.quota now issuer tier route with
    | mk counters outcome =>
      cases outcome with
      | error e => simp [events, receptions, errors_sweepIfDue]
      | ok v =>
        -- only a consume has an event to deliver, and one at most
        cases hevent : event? now issuer tier route v with
        | none => simp [events, receptions, errors_sweepIfDue, hevent]
        | some e =>
          simp [events, receptions, errors_sweepIfDue, errors_deliver, errors_reported,
            Log.errors_append, hevent]
  | sweep => exact ⟨rfl, Nat.zero_le 1⟩
  | get issuer route => exact ⟨rfl, Nat.zero_le 1⟩
  | usage => exact ⟨rfl, Nat.zero_le 1⟩

end Failures

/-! ## Two receivers -/

/-- **Receivers never influence a limiter.** Under two receivers that take or fail on whichever events
they like and change between the calls as they like, the same calls at the same readings give the
same answers, failed ones included, and leave the same limiter after each call. A reception that
fails leaves one record of an error. -/
theorem detached_of_run {ρ σ : Type} [Receiver ρ] [Receiver σ] (l : Limiter) (r : ρ) (t : σ)
    (turns : List (Turn ρ)) (others : List (Turn σ))
    (hcalls : turns.filterMap Turn.call? = others.filterMap Turn.call?) :
    observed (l, r) turns = observed (l, t) others
      ∧ ∀ (s : Limiter × ρ) (c : Call), (heard s.1 c).length ≤ 1
        ∧ (perform s c).log.errors = (receptions s.2 (heard s.1 c)).flatMap troubleOf := by
  constructor
  · rw [observed_eq_recorded, observed_eq_recorded, hcalls]
  · intro s c
    obtain ⟨herrors, hone⟩ := errors_perform s c
    exact ⟨hone, herrors⟩

/-- In front of a receiver that fails always, and of a dispatcher that is closed between the calls, the
same request is denied and the same one admitted; the first failure is logged. -/
theorem detached_of_closed_dispatcher :
    let l : Limiter := start { windowMs := 1000, freeLimit := 0 } none 0
    let denied : Call := ⟨0, .consume (.ofString "a") .free "/x"⟩
    let admitted : Call := ⟨1, .consume (.ofString "a") .paid "/x"⟩
    let dispatcher : Dispatcher Backend := .start (.memory .standard) 1 true
    let turns : List (Turn Listener) := [.call denied, .call admitted, .call ⟨2000, .sweep⟩]
    let others : List (Turn (Dispatcher Backend)) :=
      [.call denied, .own fun d => (d.close true).state, .call admitted, .call ⟨2000, .sweep⟩]
    turns.filterMap Turn.call? = others.filterMap Turn.call?
      ∧ observed (l, Listener.broken) turns = observed (l, dispatcher) others
      ∧ (perform (l, Listener.broken) denied).log.errors = undelivered := by
  intro l denied admitted dispatcher turns others
  have hcalls : turns.filterMap Turn.call? = others.filterMap Turn.call? := rfl
  obtain ⟨hsame, herrors⟩ := detached_of_run l Listener.broken dispatcher turns others hcalls
  refine ⟨hcalls, hsame, ?_⟩
  rw [(herrors (l, Listener.broken) denied).2]
  rfl

end Limiter

end IssuerGate
