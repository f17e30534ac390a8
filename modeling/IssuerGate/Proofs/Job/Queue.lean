import IssuerGate.Job.Queue
import IssuerGate.Proofs.Run
import Mathlib.Data.List.DropRight
import Mathlib.Data.List.Induction

/-!
# IssuerGate — the newest jobs of a queue

A queue of some capacity holds the newest of the jobs that were added since it was empty:

* **`jobs_push_of_rtake`** — one job more keeps that.
* **`jobs_foldl_push`** — so do any number of jobs.
* **`after_start`** — and so does each run of calls, some of which are refused and some of which
  drain the queue: the queue is what its capacity keeps of the jobs `brought` since the last drain.
* **`newest_of_run`** — hence what is drained, what is refused and how many jobs there are.
-/

namespace IssuerGate.Job.Queue

/-- The last entries of a list do not depend on what was dropped in front of them before. -/
theorem rtake_append_rtake {α : Type} (n : Nat) (xs ys : List α) :
    (xs.rtake n ++ ys).rtake n = (xs ++ ys).rtake n := by
  unfold List.rtake
  rw [← List.drop_append_of_le_length (by omega), List.drop_drop]
  congr 1
  simp only [List.length_append, List.length_drop]
  omega

/-- A queue that holds the newest jobs goes on to after a push. -/
theorem jobs_push_of_rtake {q : Queue} {added : List Job} (h : q.jobs = added.rtake q.capacity)
    (j : Job) : (q.push j).jobs = (added ++ [j]).rtake q.capacity := by
  rw [← rtake_append_rtake, ← h]
  rfl

theorem jobs_foldl_push {q : Queue} {added : List Job} (h : q.jobs = added.rtake q.capacity)
    (js : List Job) :
    (js.foldl push q).capacity = q.capacity
      ∧ (js.foldl push q).jobs = (added ++ js).rtake q.capacity := by
  induction js generalizing q added with
  | nil =>
    rw [List.append_nil]
    exact ⟨rfl, h⟩
  | cons j js ih =>
    rw [List.append_cons]
    exact ih (jobs_push_of_rtake h j)

/-! ## Calls -/

/-- What a queue is asked: to take a job, the kind of which is given by a value, or to hand over its
jobs. -/
inductive Call where
  | add (kind : Json) (payload : List (Text × Json))
  | drain

inductive Answer where
  | added
  | refused (message : Text)
  | drained (jobs : List Job)

/-- One call. A value that names no kind is refused in words. -/
def perform (q : Queue) : Call → Step Queue Answer
  | .add kind payload =>
    match q.add? kind payload with
    | some x => ⟨x.state, x.log, .added⟩
    | none => ⟨q, [], .refused (Kind.unknown kind)⟩
  | .drain => ⟨q.drain.1, [], .drained q.drain.2⟩

/-- The job that a call brings: its kind is one of two tags, its payload the one that is given. -/
def Call.job? : Call → Option Job
  | .add (.str tag) payload =>
    if tag = "rate-limit-exceeded" then some ⟨.exceeded, payload⟩
    else if tag = "rate-limit-upgrade-notification" then some ⟨.upgradeNotice, payload⟩
    else none
  | _ => none

/-- A call brings a job iff its tag is that of a kind. -/
theorem Call.job?_add_eq (kind : Json) (payload : List (Text × Json)) :
    (add kind payload).job? = (Kind.ofJson? kind).map fun k => ⟨k, payload⟩ := by
  cases kind with
  | str tag =>
    unfold job?
    dsimp only [Kind.ofJson?, Kind.ofName?, Kind.all]
    rw [List.find?_cons, List.find?_cons, List.find?_nil]
    -- the tags are tried one after the other
    by_cases hexceeded : tag = "rate-limit-exceeded"
    · rw [if_pos hexceeded, hexceeded]
      rfl
    · by_cases hnotice : tag = "rate-limit-upgrade-notification"
      · rw [if_neg hexceeded, if_pos hnotice, hnotice]
        rfl
      · have hfirst : decide (Kind.exceeded.name = tag) = false :=
          decide_eq_false fun h => hexceeded h.symm
        have hsecond : decide (Kind.upgradeNotice.name = tag) = false :=
          decide_eq_false fun h => hnotice h.symm
        rw [if_neg hexceeded, if_neg hnotice, hfirst, hsecond]
        rfl
  | _ => rfl

theorem Call.isSome_job?_add (kind : Json) (payload : List (Text × Json)) :
    (add kind payload).job?.isSome = true
      ↔ kind = .str "rate-limit-exceeded" ∨ kind = .str "rate-limit-upgrade-notification" := by
  cases kind with
  | str tag =>
    unfold job?
    simp only [Json.str.injEq]
    split_ifs <;> simp_all
  | _ => simp [job?]

/-- An add pushes the job that it brings, or else leaves the queue as it is. -/
theorem perform_add (q : Queue) (kind : Json) (payload : List (Text × Json)) :
    perform q (.add kind payload)
      = match (Call.add kind payload).job? with
        | some j => ⟨q.push j, queued j.kind, .added⟩
        | none => ⟨q, [], .refused (Kind.unknown kind)⟩ := by
  rw [Call.job?_add_eq]
  unfold perform add?
  dsimp only
  cases Kind.ofJson? kind <;> rfl

/-! ## Runs -/

def Call.drains : Call → Bool
  | .add _ _ => false
  | .drain => true

/-- The jobs that the calls of a run have brought since its last drain, in order. -/
def brought (calls : List Call) : List Job :=
  (calls.rtakeWhile fun c => !c.drains).filterMap Call.job?

theorem brought_concat_add (calls : List Call) (kind : Json) (payload : List (Text × Json)) :
    brought (calls ++ [.add kind payload])
      = brought calls ++ (Call.add kind payload).job?.toList := by
  unfold brought
  rw [List.rtakeWhile_concat_pos _ _ _ rfl, List.filterMap_append]
  cases h : (Call.add kind payload).job? <;> simp [h]

theorem brought_concat_drain (calls : List Call) : brought (calls ++ [.drain]) = [] := by
  unfold brought
  rw [List.rtakeWhile_concat_neg _ _ _ (by decide)]
  rfl

/-- **The state of a queue**: what its capacity keeps of the jobs that were brought since the last
drain. -/
theorem after_start (capacity : Nat) (calls : List Call) :
    Run.after perform ⟨capacity, []⟩ calls = ⟨capacity, (brought calls).rtake capacity⟩ := by
  -- from the back: a call pushes one job, or none, or empties the queue
  induction calls using List.reverseRecOn with
  | nil => simp [brought]
  | append_singleton calls c ih =>
    rw [Run.after_concat, ih]
    cases c with
    | add kind payload =>
      rw [perform_add, brought_concat_add]
      cases (Call.add kind payload).job? with
      | none => simp
      | some j =>
        have hpush : ((⟨capacity, (brought calls).rtake capacity⟩ : Queue).push j).jobs = _ :=
          jobs_push_of_rtake rfl j
        exact congrArg (Queue.mk capacity) hpush
    | drain =>
      rw [brought_concat_drain]
      simp [perform, drain]

/-- A queue is made of each capacity that is not below zero and fits a machine word. -/
theorem ofCapacity_eq_ok_iff {n : Int} {q : Queue} :
    ofCapacity n = .ok q ↔ Word.fits n = true ∧ 0 ≤ n ∧ q = ⟨n.toNat, []⟩ := by
  unfold ofCapacity
  cases Word.fits n with
  | false => simp
  | true =>
    by_cases hneg : n < 0
    · simp [hneg, Int.not_le.mpr hneg]
    · simp [hneg, Int.not_lt.mp hneg, eq_comm]

theorem length_rtake {α : Type} (n : Nat) (xs : List α) :
    (xs.rtake n).length = min n xs.length := by
  unfold List.rtake
  rw [List.length_drop]
  omega

/-- **A queue keeps the newest jobs**, in each run of adds and drains.

* It is opened with its capacity, which any number is that is not negative and no more than a word.
* A drain hands over the last jobs that were brought since the drain before, as many as the capacity
  allows, in order.
* An add is taken if its kind is one of the two tags, and refused if it is not. A refused one leaves
  the queue as it is.
* The queue has as many jobs as a drain would hand over, and never more than its capacity. -/
theorem newest_of_run (capacity : Nat) (past : List Call) :
    let first : Queue := ⟨capacity, []⟩
    let q := Run.after perform first past
    let jobs := brought past
    (∀ n, ofCapacity n = .ok first ↔ n = capacity ∧ Word.fits n = true)
      ∧ (perform q .drain).answer = .drained (jobs.rtake capacity)
      ∧ (∀ kind payload,
        let x := perform q (.add kind payload)
        let tagged := kind = .str "rate-limit-exceeded"
          ∨ kind = .str "rate-limit-upgrade-notification"
        (x.answer = .added ↔ tagged) ∧ (x = ⟨q, [], .refused (Kind.unknown kind)⟩ ↔ ¬ tagged))
      ∧ q.size = (jobs.rtake capacity).length ∧ q.size = min capacity jobs.length := by
  intro first q jobs
  have hq : q = ⟨capacity, jobs.rtake capacity⟩ := after_start capacity past
  have hsize : q.size = (jobs.rtake capacity).length := by rw [hq]; rfl
  refine ⟨fun n => ?_, ?_, fun kind payload => ?_, hsize, hsize.trans (length_rtake capacity jobs)⟩
  · rw [ofCapacity_eq_ok_iff]
    constructor
    · rintro ⟨hword, hnonneg, hfirst⟩
      have hcapacity : capacity = n.toNat := congrArg Queue.capacity hfirst
      exact ⟨by omega, hword⟩
    · rintro ⟨rfl, hword⟩
      exact ⟨hword, Int.natCast_nonneg capacity, rfl⟩
  · rw [hq]
    rfl
  -- an addition is refused iff its tag is that of no kind
  · dsimp only
    rw [← Call.isSome_job?_add kind payload, perform_add]
    cases (Call.add kind payload).job? <;> simp

end IssuerGate.Job.Queue
