import IssuerGate.Job.Dispatcher
import IssuerGate.Proofs.Run
import Mathlib.Data.List.Induction

/-!
# IssuerGate — what becomes of a submitted job

A dispatcher is asked to take jobs and to close, and its worker hands over pending jobs in between.
None of its own decisions looks at the sink: which jobs it takes, which ones a call hands over and
which ones stay pending depend on the pending jobs alone.

* **`perform_eq`** — a call in these terms: the sink gets the jobs that are `due`, the dispatcher
  keeps the jobs that are `kept`.
* **`due_append_kept`** — a call loses, repeats and overtakes no job: what is due and then what is
  kept is what was pending and then what is accepted.
* **`attempts`** — what a sink is asked during a run, told by a sink that remembers it. That it
  remembers changes nothing (`recorded_after`).
* **`attempts_append_pending`** — so the attempts of a run and then the pending jobs are the accepted
  jobs, in their order, whichever attempts fail.
* **`delivery_of_run`** — the whole promise of a dispatcher to those who submit jobs.
-/

namespace IssuerGate.Dispatcher

/-! ## Calls -/

/-- What a job is submitted for. -/
inductive Submission where
  | exceeded (issuer : Json) (tier route : Text) (timestamp limit count : Int)
  | upgrade (issuer : Json) (route : Text) (limit count : Int)

def Submission.job : Submission → Job
  | exceeded issuer tier route timestamp limit count =>
    .exceeded issuer tier route timestamp limit count
  | upgrade issuer route limit count => .upgradeNotice issuer route limit count

/-- What happens at a dispatcher. The worker acts by `run`, whenever it gets to it; who flushes waits
for the worker and does nothing else. -/
inductive Call where
  | submit (s : Submission)
  | run (most : Nat)
  | flush
  | close (wait : Bool)

inductive Answer where
  | submitted (accepted : Bool)
  | ran (jobs : Nat)
  | done
deriving DecidableEq, Repr

def perform {σ : Type} [JobSink σ] (d : Dispatcher σ) : Call → Step (Dispatcher σ) Answer
  | .submit s =>
    let x := d.submit s.job
    ⟨x.state, x.log, .submitted x.answer⟩
  | .run most =>
    let x := d.run most
    ⟨x.state, x.log, .ran x.answer⟩
  | .flush => ⟨d, [], .done⟩
  | .close wait =>
    let x := d.close wait
    ⟨x.state, x.log, .done⟩

/-- The job of a line of a transcript, if it was accepted. -/
def accepted? : Call × Answer → Option Job
  | (.submit s, .submitted true) => some s.job
  | _ => none

/-! ## A call without its sink -/

section Bookkeeping

variable {σ : Type} (d : Dispatcher σ)

def accepts : Bool := !d.closed && decide (d.pending.length < d.maxPending)

/-- The jobs that a call hands over. -/
def due : Call → List Job
  | .submit s => if d.accepts && d.immediate then [s.job] else []
  | .run most => d.pending.take most
  | .flush => []
  | .close wait => if wait then d.pending else []

/-- The jobs that are pending after a call. -/
def kept : Call → List Job
  | .submit s => if d.accepts && !d.immediate then d.pending ++ [s.job] else d.pending
  | .run most => d.pending.drop most
  | .flush => d.pending
  | .close wait => if wait then [] else d.pending

/-- What a dispatcher reports of a job that it does not take. -/
def refusal (j : Job) : Log :=
  if d.maxPending ≤ d.pending.length then refusedFull j d.pending.length else refusedClosed j

/-- What a call reports of itself, beside what is reported of the jobs handed over. -/
def ownReport : Call → Log
  | .submit s => if d.accepts then [] else d.refusal s.job
  | _ => []

def reply : Call → Answer
  | .submit _ => .submitted d.accepts
  | .run most => .ran (d.pending.take most).length
  | _ => .done

def Call.closes : Call → Bool
  | .close _ => true
  | _ => false

/-- The dispatcher after a call, with its sink. -/
def next {τ : Type} (sink : τ) (c : Call) : Dispatcher τ where
  sink := sink
  maxPending := d.maxPending
  immediate := d.immediate
  pending := d.kept c
  closed := d.closed || c.closes
  one_le_maxPending := d.one_le_maxPending

/-! ### Between two calls -/

/-- What holds of a dispatcher between two calls. -/
structure Orderly (d : Dispatcher σ) : Prop where
  pending_le : d.pending.length ≤ d.maxPending
  of_immediate : d.immediate = true → d.pending = []

theorem orderly_start (sink : σ) (maxPending : Int) (immediate : Bool) :
    (start sink maxPending immediate).Orderly where
  pending_le := Nat.zero_le _
  of_immediate _ := rfl

variable {d : Dispatcher σ}

theorem Orderly.next {τ : Type} (h : d.Orderly) (sink : τ) (c : Call) :
    (d.next sink c).Orderly where
  pending_le := by
    have hle := h.pending_le
    show (d.kept c).length ≤ d.maxPending
    cases c with
    | submit s =>
      show (if d.accepts && !d.immediate then d.pending ++ [s.job] else d.pending).length ≤ _
      split
      · next htaken =>
        -- a job is taken only while there is room for one more
        simp only [accepts, Bool.and_eq_true, decide_eq_true_eq] at htaken
        rw [List.length_append, List.length_singleton]
        omega
      · exact hle
    | run most =>
      show (d.pending.drop most).length ≤ _
      rw [List.length_drop]
      omega
    | flush => exact hle
    | close wait =>
      cases wait with
      | true => exact Nat.zero_le _
      | false => exact hle
  of_immediate himmediate := by
    have himm : d.immediate = true := himmediate
    have hnone : d.pending = [] := h.of_immediate himm
    show d.kept c = []
    cases c with
    | submit s => simp [kept, himm, hnone]
    | run most => simp [kept, hnone]
    | flush => exact hnone
    | close wait => simp [kept, hnone]

/-- **A call loses, repeats and overtakes no job.** -/
theorem due_append_kept (h : d.Orderly) (c : Call) :
    d.due c ++ d.kept c = d.pending ++ (accepted? (c, d.reply c)).toList := by
  -- a call hands over a front part of what waits; an accepted job comes at the end
  cases c with
  | submit s =>
    unfold due kept reply
    by_cases ha : d.accepts = true
    · by_cases hi : d.immediate = true
      · simp [ha, hi, h.of_immediate hi, accepted?]
      · simp [ha, hi, accepted?]
    · simp [ha, accepted?]
  | run most => simp [due, kept, accepted?]
  | flush => simp [due, kept, accepted?]
  | close wait =>
    cases wait with
    | true => simp [due, kept, accepted?]
    | false => simp [due, kept, accepted?]

end Bookkeeping

/-! ## A call with its sink -/

section Sink

variable {σ : Type} [JobSink σ]

/-- A job that is accepted is handed over at once or waits. -/
theorem submit_of_accepts {d : Dispatcher σ} (h : d.accepts = true) (j : Job) :
    d.submit j
      = if d.immediate then
          ⟨{ d with sink := (handOver d.sink j).state }, (handOver d.sink j).log, true⟩
        else ⟨{ d with pending := d.pending ++ [j] }, [], true⟩ := by
  unfold accepts at h
  rw [Bool.and_eq_true, Bool.not_eq_true', decide_eq_true_eq] at h
  unfold submit
  rw [if_neg (by omega), if_neg (by rw [h.1]; decide)]

/-- A job that is not accepted changes nothing. -/
theorem submit_of_not_accepts {d : Dispatcher σ} (h : d.accepts = false) (j : Job) :
    d.submit j = ⟨d, d.refusal j, false⟩ := by
  unfold submit refusal
  split
  · rfl
  · next hroom =>
    have hclosed : d.closed = true := by
      unfold accepts at h
      rw [decide_eq_true (by omega), Bool.and_true] at h
      simpa using h
    rw [if_pos hclosed]

/-- **A call in terms of what is due and what is kept.** -/
theorem perform_eq (d : Dispatcher σ) (c : Call) :
    perform d c
      = ⟨d.next (handOverAll d.sink (d.due c)).state c,
        d.ownReport c ++ (handOverAll d.sink (d.due c)).log, d.reply c⟩ := by
  -- each call is its own report, then the attempts that are due
  cases c with
  | submit s =>
    unfold perform next due kept ownReport reply
    dsimp only
    by_cases ha : d.accepts = true
    · rw [submit_of_accepts ha, ha]
      by_cases hi : d.immediate = true
      · simp [hi, handOverAll, Call.closes]
      · simp [hi, handOverAll, Call.closes]
    · have ha' : d.accepts = false := by simpa using ha
      rw [submit_of_not_accepts ha', ha']
      simp [handOverAll, Call.closes]
  | run most => simp [perform, run, next, due, kept, ownReport, reply, Call.closes]
  | flush => simp [perform, next, due, kept, ownReport, reply, handOverAll, Call.closes]
  | close wait =>
    cases wait with
    | true => simp [perform, close, run, next, due, kept, ownReport, reply, Call.closes]
    | false =>
      simp [perform, close, next, due, kept, ownReport, reply, handOverAll, Call.closes]

/-! ## What a sink is asked -/

/-- One attempt to hand over a job: what the sink reported and whether it took the job. -/
structure Attempt where
  job : Job
  log : Log
  taken : Bool
deriving Repr

/-- What is reported of an attempt: one record more if it failed. -/
def Attempt.report (a : Attempt) : Log := a.log ++ if a.taken then [] else notTaken a.job

/-- A sink that remembers the attempts made on it. -/
structure Journal (σ : Type) where
  sink : σ
  attempts : List Attempt

instance : JobSink (Journal σ) where
  attempt s j :=
    let x := JobSink.attempt s.sink j
    ⟨⟨x.state, s.attempts ++ [⟨j, x.log, x.answer⟩]⟩, x.log, x.answer⟩

/-- The attempts at some jobs, one after the other. -/
def attemptsAt (sink : σ) : List Job → List Attempt
  | [] => []
  | j :: js =>
    let x := JobSink.attempt sink j
    ⟨j, x.log, x.answer⟩ :: attemptsAt x.state js

/-- **Each job is attempted once**, whichever attempts fail. -/
theorem map_job_attemptsAt (sink : σ) (js : List Job) :
    (attemptsAt sink js).map Attempt.job = js := by
  induction js generalizing sink with
  | nil => rfl
  | cons j js ih => exact congrArg (j :: ·) (ih _)

/-- What is logged of jobs handed over are the failures among the attempts. -/
theorem log_handOverAll (sink : σ) (js : List Job) :
    (handOverAll sink js).log = (attemptsAt sink js).flatMap Attempt.report := by
  induction js generalizing sink with
  | nil => rfl
  | cons j js ih =>
    unfold handOverAll attemptsAt
    rw [List.flatMap_cons, ← ih]
    rfl

/-- A journal takes the attempts down, and its sink goes the same way. -/
theorem state_handOverAll_journal (s : Journal σ) (js : List Job) :
    (handOverAll s js).state
      = ⟨(handOverAll s.sink js).state, s.attempts ++ attemptsAt s.sink js⟩ := by
  induction js generalizing s with
  | nil =>
    unfold handOverAll attemptsAt
    rw [List.append_nil]
  | cons j js ih =>
    show (handOverAll (handOver s j).state js).state = _
    rw [ih]
    show Journal.mk _ (s.attempts ++ [_] ++ _) = Journal.mk _ (s.attempts ++ (_ :: _))
    rw [List.append_assoc]
    rfl

theorem attemptsAt_journal (s : Journal σ) (js : List Job) :
    attemptsAt s js = attemptsAt s.sink js := by
  induction js generalizing s with
  | nil => rfl
  | cons j js ih => exact congrArg (_ :: ·) (ih _)

def withSink {τ : Type} (d : Dispatcher σ) (sink : τ) : Dispatcher τ where
  sink := sink
  maxPending := d.maxPending
  immediate := d.immediate
  pending := d.pending
  closed := d.closed
  one_le_maxPending := d.one_le_maxPending

/-- The attempts that a run makes on the sink. -/
def attempts (d : Dispatcher σ) (calls : List Call) : List Attempt :=
  (Run.after perform (d.withSink (Journal.mk d.sink [])) calls).sink.attempts

/-- A call does over a sink that remembers what it does over the sink itself. -/
theorem perform_journal (d : Dispatcher σ) (earlier : List Attempt) (c : Call) :
    perform (d.withSink (Journal.mk d.sink earlier)) c
      = ⟨(perform d c).state.withSink
          ⟨(perform d c).state.sink, earlier ++ attemptsAt d.sink (d.due c)⟩,
        (perform d c).log, (perform d c).answer⟩ := by
  have hdue : (d.withSink (Journal.mk d.sink earlier)).due c = d.due c := by cases c <;> rfl
  have hown : (d.withSink (Journal.mk d.sink earlier)).ownReport c = d.ownReport c := by
    cases c <;> rfl
  rw [perform_eq, perform_eq, hdue, hown, state_handOverAll_journal, log_handOverAll,
    attemptsAt_journal, log_handOverAll]
  cases c <;> rfl

/-- **Remembering changes nothing**: a run over a sink that remembers leaves the dispatcher that it
leaves over the sink itself. -/
theorem recorded_after (d : Dispatcher σ) (calls : List Call) :
    Run.after perform (d.withSink (Journal.mk d.sink [])) calls
      = (Run.after perform d calls).withSink
          ⟨(Run.after perform d calls).sink, attempts d calls⟩ := by
  -- what was attempted before the run is only added to, so the run is the same over each start
  have hrun : ∀ earlier, ∃ as,
      Run.after perform (d.withSink (Journal.mk d.sink earlier)) calls
        = (Run.after perform d calls).withSink ⟨(Run.after perform d calls).sink, as⟩ := by
    induction calls generalizing d with
    | nil => exact fun earlier => ⟨earlier, rfl⟩
    | cons c calls ih =>
      intro earlier
      rw [Run.after_cons, Run.after_cons, perform_journal]
      exact ih (perform d c).state _
  obtain ⟨as, has⟩ := hrun []
  unfold attempts
  rw [has]
  rfl

/-- One more call makes the attempts that are due at it. -/
theorem attempts_concat (d : Dispatcher σ) (calls : List Call) (c : Call) :
    attempts d (calls ++ [c])
      = attempts d calls
        ++ attemptsAt (Run.after perform d calls).sink ((Run.after perform d calls).due c) := by
  show (Run.after perform (d.withSink (Journal.mk d.sink [])) (calls ++ [c])).sink.attempts = _
  rw [Run.after_concat, recorded_after, perform_journal]
  rfl

/-! ## Runs -/

theorem Orderly.perform {d : Dispatcher σ} (h : d.Orderly) (c : Call) :
    (perform d c).state.Orderly := by
  rw [perform_eq]
  exact h.next _ c

/-- **What was attempted and then what is pending is what was accepted.** -/
theorem attempts_append_pending {d : Dispatcher σ} (h : d.Orderly) (calls : List Call) :
    (attempts d calls).map Attempt.job ++ (Run.after perform d calls).pending
      = d.pending ++ (Run.transcript perform d calls).filterMap accepted? := by
  induction calls using List.reverseRecOn with
  | nil => exact (List.append_nil _).symm
  | append_singleton calls c ih =>
    -- the jobs due move from the pending ones to the attempts, at the joint of the two lists
    have horderly : (Run.after perform d calls).Orderly :=
      Run.after_invariant Orderly (fun _ c hd => hd.perform c) h calls
    have hstep := due_append_kept horderly c
    rw [attempts_concat, List.map_append, map_job_attemptsAt, Run.transcript_concat,
      List.filterMap_append, ← List.append_assoc, ← ih, Run.after_concat, perform_eq]
    show _ ++ (Run.after perform d calls).due c ++ (Run.after perform d calls).kept c = _
    rw [List.append_assoc, hstep, List.append_assoc]
    rfl

theorem maxPending_after (d : Dispatcher σ) (calls : List Call) :
    (Run.after perform d calls).maxPending = d.maxPending :=
  Run.after_invariant (fun e : Dispatcher σ => e.maxPending = d.maxPending)
    (fun e c he => by rw [perform_eq]; exact he) rfl calls

theorem closed_after (d : Dispatcher σ) (calls : List Call) :
    (Run.after perform d calls).closed = (d.closed || calls.any Call.closes) := by
  induction calls generalizing d with
  | nil => simp
  | cons c calls ih =>
    rw [Run.after_cons, ih, perform_eq, List.any_cons, ← Bool.or_assoc]
    rfl

/-- A closed dispatcher without pending jobs stays so. -/
theorem pending_after_of_closed {d : Dispatcher σ} (hclosed : d.closed = true)
    (hnone : d.pending = []) (calls : List Call) : (Run.after perform d calls).pending = [] := by
  have hstep : ∀ (e : Dispatcher σ) (c : Call), e.closed = true ∧ e.pending = [] →
      (perform e c).state.closed = true ∧ (perform e c).state.pending = [] := by
    rintro e c ⟨heclosed, henone⟩
    rw [perform_eq]
    refine ⟨?_, ?_⟩
    · show (e.closed || c.closes) = true
      rw [heclosed, Bool.true_or]
    · show e.kept c = []
      -- once closed nothing is accepted, so the empty queue stays empty
      cases c with
      | submit s => simp [kept, accepts, heclosed, henone]
      | run most => simp [kept, henone]
      | flush => exact henone
      | close wait => simp [kept, henone]
  exact (Run.after_invariant _ hstep ⟨hclosed, hnone⟩ calls).2

/-- Who waits while closing leaves nothing pending, whatever comes later. -/
theorem pending_after_of_close {d : Dispatcher σ} {calls : List Call}
    (h : Call.close true ∈ calls) : (Run.after perform d calls).pending = [] := by
  obtain ⟨earlier, later, rfl⟩ := List.append_of_mem h
  rw [Run.after_append, Run.after_cons, perform_eq]
  refine pending_after_of_closed ?_ rfl later
  show (_ || true) = true
  rw [Bool.or_true]

/-- When the next job is accepted: nobody has closed the dispatcher, and there is room. -/
theorem accepts_after_iff (sink : σ) (maxPending : Int) (immediate : Bool) (past : List Call) :
    let d := Run.after perform (start sink maxPending immediate) past
    d.accepts = true
      ↔ (∀ wait, .close wait ∉ past) ∧ (d.pending.length : Int) < max 1 maxPending := by
  intro d
  have hmax : d.maxPending = max 1 maxPending.toNat :=
    maxPending_after (start sink maxPending immediate) past
  have hclosed : d.closed = past.any Call.closes :=
    closed_after (start sink maxPending immediate) past
  have hopen : d.closed = false ↔ ∀ wait, .close wait ∉ past := by
    rw [hclosed, List.any_eq_false]
    constructor
    · exact fun hnone wait hmem => hnone _ hmem rfl
    · intro hnone c hc
      cases c with
      | close wait => exact absurd hc (hnone wait)
      | submit s => exact Bool.false_ne_true
      | run most => exact Bool.false_ne_true
      | flush => exact Bool.false_ne_true
  -- the bound of the dispatcher is the given one, made 1 at least
  have hroom : d.pending.length < d.maxPending
      ↔ (d.pending.length : Int) < max 1 maxPending := by
    rw [hmax]
    omega
  unfold accepts
  rw [Bool.and_eq_true, Bool.not_eq_true', decide_eq_true_eq, hopen, hroom]

/-- A call that is not refused reports what its attempts report. -/
theorem log_perform_of_taken {d : Dispatcher σ} {c : Call}
    (h : (perform d c).answer ≠ .submitted false) :
    (perform d c).log = (attemptsAt d.sink (d.due c)).flatMap Attempt.report := by
  rw [perform_eq] at h
  -- only a job that is refused is reported by the dispatcher itself
  have hown : d.ownReport c = [] := by
    cases c with
    | submit s =>
      have htaken : d.accepts = true := by
        cases ha : d.accepts with
        | true => rfl
        | false => exact absurd (congrArg Answer.submitted ha) h
      show (if d.accepts then [] else d.refusal s.job) = []
      rw [if_pos htaken]
    | run most => rfl
    | flush => rfl
    | close wait => rfl
  rw [perform_eq, ← log_handOverAll]
  show d.ownReport c ++ _ = _
  rw [hown, List.nil_append]

/-- **What a dispatcher does with the jobs that are submitted to it**, in each run of calls and
whichever attempts its sink fails.

* The attempts made so far and then the pending jobs are the accepted jobs, in order, each once.
* No more jobs are pending than allowed, at least one being allowed.
* After a close that waits nothing is pending, and each accepted job has been attempted once.
* A job is accepted if and only if nobody has closed the dispatcher and fewer jobs are pending than
  allowed. A refused one leaves the dispatcher as it is, no attempt and one record: a warning that
  too many are pending, or else the error that the dispatcher is closed.
* Any other call reports what its attempts report: what the sink says of each, and one error for
  each that failed. -/
theorem delivery_of_run (sink : σ) (maxPending : Int) (immediate : Bool) (past : List Call) :
    let first : Dispatcher σ := start sink maxPending immediate
    let d := Run.after perform first past
    let accepted := (Run.transcript perform first past).filterMap accepted?
    (attempts first past).map Attempt.job ++ d.pending = accepted
      ∧ (d.pending.length : Int) ≤ max 1 maxPending
      ∧ (.close true ∈ past → d.pending = [] ∧ (attempts first past).map Attempt.job = accepted)
      ∧ (∀ s : Submission,
        let x := perform d (.submit s)
        (x.answer = .submitted true
          ↔ (∀ wait, .close wait ∉ past) ∧ (d.pending.length : Int) < max 1 maxPending)
        ∧ (x.answer = .submitted false → x.state = d
          ∧ attempts first (past ++ [.submit s]) = attempts first past
          ∧ x.log = if max 1 maxPending ≤ d.pending.length then refusedFull s.job d.pending.length
              else refusedClosed s.job))
      ∧ ∀ c, (perform d c).answer ≠ .submitted false →
        ∃ made, attempts first (past ++ [c]) = attempts first past ++ made
          ∧ (perform d c).log = made.flatMap Attempt.report := by
  intro first d accepted
  have horderly : d.Orderly :=
    Run.after_invariant Orderly (fun _ c he => he.perform c)
      (orderly_start sink maxPending immediate) past
  have hconserved : (attempts first past).map Attempt.job ++ d.pending = accepted :=
    attempts_append_pending (orderly_start sink maxPending immediate) past
  have hmax : d.maxPending = max 1 maxPending.toNat := maxPending_after first past
  refine ⟨hconserved, ?_, fun hclose => ?_, fun s => ⟨?_, fun hrefused => ?_⟩, fun c htaken =>
    ⟨_, attempts_concat first past c, log_perform_of_taken htaken⟩⟩
  · have hle := horderly.pending_le
    omega
  -- a close that waits empties the queue, and nothing enters it again
  · have hnone : d.pending = [] := pending_after_of_close hclose
    rw [hnone, List.append_nil] at hconserved
    exact ⟨hnone, hconserved⟩
  · have haccepts : d.accepts = true ↔ _ := accepts_after_iff sink maxPending immediate past
    rw [← haccepts, perform_eq]
    show Answer.submitted d.accepts = .submitted true ↔ _
    rw [Answer.submitted.injEq]
  · rw [perform_eq] at hrefused
    have hno : d.accepts = false := Answer.submitted.inj hrefused
    have hsubmit := submit_of_not_accepts hno s.job
    refine ⟨congrArg Step.state hsubmit, ?_, ?_⟩
    · rw [attempts_concat]
      show _ ++ attemptsAt d.sink (if d.accepts && d.immediate then [s.job] else []) = _
      rw [hno]
      exact List.append_nil _
    -- one reason is given for a refusal, and a full queue comes first
    · have hfull : d.maxPending ≤ d.pending.length ↔ max 1 maxPending ≤ d.pending.length := by
        rw [hmax]
        omega
      show (d.submit s.job).log = _
      rw [hsubmit]
      unfold refusal
      simp only [hfull]

end Sink

/-- One job may be pending. The attempt at the first one fails, the second one is refused while the
first is pending, and the last one after closing. -/
theorem delivery_of_run_of_outage :
    let first : Dispatcher Backend := start (.broker { outages := [0] }) 0 false
    let notice (issuer : String) : Submission := .upgrade (.ofString issuer) "/x" 5 4
    let past : List Call :=
      [.submit (notice "a"), .submit (notice "b"), .run 1, .submit (notice "c"), .close true,
        .submit (notice "d")]
    .close true ∈ past
      ∧ (attempts first past).map Attempt.taken = [false, true]
      ∧ (attempts first past).map Attempt.job = [(notice "a").job, (notice "c").job] := by
  intro first notice past
  have hclose : Call.close true ∈ past := by simp [past]
  obtain ⟨-, -, hdone, -, -⟩ := delivery_of_run (.broker { outages := [0] } : Backend) 0 false past
  have haccepted : (Run.transcript perform first past).filterMap accepted?
      = [(notice "a").job, (notice "c").job] := rfl
  exact ⟨hclose, rfl, (hdone hclose).2.trans haccepted⟩

end IssuerGate.Dispatcher
