import IssuerGate.Log
import Mathlib.Data.List.Forall2

/-!
# IssuerGate — runs of a system that answers calls

A system is a step function `σ → γ → Step σ α`: it takes a call in a state and leaves the next
state and an answer. A run is a list of calls. Three readings of a run are used throughout the
theory:

* **`Run.after`** — the state that the calls leave.
* **`Run.transcript`** — each call beside the answer it got, in order.
* **`Run.moments`** — each call beside the state in which it was made, in order.

All compose over `++`, so a property of every step becomes a property of every run by induction
on the calls, from the front (`after_cons`) or from the back (`after_concat`).
-/

namespace IssuerGate.Run

variable {σ γ α : Type}

/-- The state that a list of calls leaves. -/
def after (step : σ → γ → Step σ α) (s : σ) (calls : List γ) : σ :=
  calls.foldl (fun s c => (step s c).state) s

/-- Each call of a list beside its answer, in order. -/
def transcript (step : σ → γ → Step σ α) : σ → List γ → List (γ × α)
  | _, [] => []
  | s, c :: calls => (c, (step s c).answer) :: transcript step (step s c).state calls

/-- Each call of a list beside the state in which it is made, in order. -/
def moments (step : σ → γ → Step σ α) : σ → List γ → List (σ × γ)
  | _, [] => []
  | s, c :: calls => (s, c) :: moments step (step s c).state calls

variable {step : σ → γ → Step σ α}

@[simp] theorem after_nil (s : σ) : after step s [] = s := rfl

theorem after_cons (s : σ) (c : γ) (calls : List γ) :
    after step s (c :: calls) = after step (step s c).state calls := rfl

theorem after_append (s : σ) (first second : List γ) :
    after step s (first ++ second) = after step (after step s first) second := by
  unfold after
  rw [List.foldl_append]

theorem after_concat (s : σ) (calls : List γ) (c : γ) :
    after step s (calls ++ [c]) = (step (after step s calls) c).state := by
  rw [after_append]
  rfl

@[simp] theorem transcript_nil (s : σ) : transcript step s [] = [] := rfl

theorem transcript_cons (s : σ) (c : γ) (calls : List γ) :
    transcript step s (c :: calls)
      = (c, (step s c).answer) :: transcript step (step s c).state calls := rfl

/-- The transcript of a run is that of its first part and that of the rest, from there on. -/
theorem transcript_append (s : σ) (first second : List γ) :
    transcript step s (first ++ second)
      = transcript step s first ++ transcript step (after step s first) second := by
  induction first generalizing s with
  | nil => rfl
  | cons c first ih =>
    rw [List.cons_append, transcript_cons, transcript_cons, ih, after_cons, List.cons_append]

/-- The transcript grows by one line for each call. -/
theorem transcript_concat (s : σ) (calls : List γ) (c : γ) :
    transcript step s (calls ++ [c])
      = transcript step s calls ++ [(c, (step (after step s calls) c).answer)] := by
  rw [transcript_append]
  rfl

/-- What holds at the start and is kept by each step holds after each run. -/
theorem after_invariant (Inv : σ → Prop) (hstep : ∀ s c, Inv s → Inv (step s c).state)
    {s : σ} (hs : Inv s) (calls : List γ) : Inv (after step s calls) := by
  induction calls generalizing s with
  | nil => exact hs
  | cons c calls ih => exact ih (hstep s c hs)

/-- What each step shows holds of each line of a transcript. -/
theorem forall_mem_transcript {P : γ × α → Prop} (hstep : ∀ s c, P (c, (step s c).answer)) (s : σ)
    (calls : List γ) : ∀ line ∈ transcript step s calls, P line := by
  induction calls generalizing s with
  | nil =>
    intro line hline
    cases hline
  | cons c calls ih =>
    intro line hline
    rcases List.mem_cons.mp hline with rfl | hlater
    · exact hstep s c
    · exact ih (step s c).state line hlater

/-! ## Moments -/

@[simp] theorem moments_nil (s : σ) : moments step s [] = [] := rfl

theorem moments_cons (s : σ) (c : γ) (calls : List γ) :
    moments step s (c :: calls) = (s, c) :: moments step (step s c).state calls := rfl

theorem moments_append (s : σ) (first second : List γ) :
    moments step s (first ++ second)
      = moments step s first ++ moments step (after step s first) second := by
  induction first generalizing s with
  | nil => rfl
  | cons c first ih =>
    rw [List.cons_append, moments_cons, moments_cons, ih, after_cons, List.cons_append]

theorem moments_concat (s : σ) (calls : List γ) (c : γ) :
    moments step s (calls ++ [c]) = moments step s calls ++ [(after step s calls, c)] := by
  rw [moments_append]
  rfl

/-- A moment is made of a call of the run and the state that the earlier calls leave. -/
theorem exists_of_mem_moments {s : σ} {calls : List γ} {m : σ × γ}
    (h : m ∈ moments step s calls) :
    ∃ earlier later, calls = earlier ++ m.2 :: later ∧ m.1 = after step s earlier := by
  induction calls generalizing s with
  | nil => cases h
  | cons c calls ih =>
    rcases List.mem_cons.mp h with rfl | hlater
    · exact ⟨[], calls, rfl, rfl⟩
    · obtain ⟨earlier, later, hcalls, hstate⟩ := ih hlater
      exact ⟨c :: earlier, later, congrArg (c :: ·) hcalls, hstate⟩

/-! ## Two systems

A relation that every call keeps, and under which it gets the same answer, makes two systems
indistinguishable to whoever calls them. -/

/-- Two machines that are related, and stay so at each call and answer alike, have the same
transcript. -/
theorem transcript_eq_of_simulation {τ : Type} {other : τ → γ → Step τ α} (R : σ → τ → Prop)
    (hstep : ∀ s t c, R s t → R (step s c).state (other t c).state
      ∧ (step s c).answer = (other t c).answer)
    {s : σ} {t : τ} (h : R s t) (calls : List γ) :
    R (after step s calls) (after other t calls)
      ∧ transcript step s calls = transcript other t calls := by
  induction calls generalizing s t with
  | nil => exact ⟨h, rfl⟩
  | cons c calls ih =>
    obtain ⟨hstate, hanswer⟩ := hstep s t c h
    obtain ⟨hafter, hlater⟩ := ih hstate
    refine ⟨hafter, ?_⟩
    rw [transcript_cons, transcript_cons, hanswer, hlater]

/-- Two systems that are called alike answer alike, as long as the second one's answers are proper.
Such a relation may allow that calls and answers differ a little. -/
theorem transcript_forall₂_of_simulation {τ δ β : Type} {other : τ → δ → Step τ β} (R : σ → τ → Prop)
    (C : γ → δ → Prop) (A : α → β → Prop) (proper : β → Prop)
    (hstep : ∀ s t c d, R s t → C c d → proper (other t d).answer →
      R (step s c).state (other t d).state ∧ A (step s c).answer (other t d).answer)
    {s : σ} {t : τ} (h : R s t) {calls : List γ} {others : List δ}
    (hcalls : List.Forall₂ C calls others)
    (hproper : ∀ line ∈ transcript other t others, proper line.2) :
    R (after step s calls) (after other t others)
      ∧ List.Forall₂ (fun x y => C x.1 y.1 ∧ A x.2 y.2) (transcript step s calls)
        (transcript other t others) := by
  induction hcalls generalizing s t with
  | nil => exact ⟨h, .nil⟩
  | cons hcall _ ih =>
    rw [transcript_cons] at hproper
    obtain ⟨hfirst, hlater⟩ := List.forall_mem_cons.mp hproper
    obtain ⟨hstate, hanswer⟩ := hstep s t _ _ h hcall hfirst
    obtain ⟨hafter, htranscript⟩ := ih hstate hlater
    exact ⟨hafter, .cons ⟨hcall, hanswer⟩ htranscript⟩

/-! ## Clock readings

A run has a clock that never decreases if the readings of its calls are ordered. -/

/-- The readings of the calls never decrease. -/
def Ordered (reading : γ → Int) (calls : List γ) : Prop :=
  calls.Pairwise fun c d => reading c ≤ reading d

instance (reading : γ → Int) (calls : List γ) : Decidable (Ordered reading calls) :=
  inferInstanceAs (Decidable (List.Pairwise _ _))

variable {reading : γ → Int}

/-- A run ends with a call if and only if no earlier reading is later than that call's. -/
theorem ordered_concat {calls : List γ} {c : γ} :
    Ordered reading (calls ++ [c])
      ↔ Ordered reading calls ∧ ∀ d ∈ calls, reading d ≤ reading c := by
  unfold Ordered
  rw [List.pairwise_append]
  simp

/-- Calls that are made of some of the calls of a run, at their readings, are ordered too. -/
theorem Ordered.filterMap {δ : Type} {other : δ → Int} {f : γ → Option δ}
    (hf : ∀ c d, f c = some d → other d = reading c) {calls : List γ}
    (h : Ordered reading calls) : Ordered other (calls.filterMap f) := by
  refine List.Pairwise.filterMap f (fun c c' hle d hd d' hd' => ?_) h
  rw [hf c d hd, hf c' d' hd']
  exact hle

/-- Some reading of the clock is as late as each call. -/
theorem exists_reading_ge (reading : γ → Int) (calls : List γ) :
    ∃ clock, ∀ c ∈ calls, reading c ≤ clock := by
  induction calls with
  | nil => exact ⟨0, fun c hc => by cases hc⟩
  | cons d calls ih =>
    obtain ⟨clock, hclock⟩ := ih
    refine ⟨max (reading d) clock, fun c hc => ?_⟩
    rcases List.mem_cons.mp hc with rfl | hc
    · omega
    · have hle := hclock c hc
      omega

/-- Some reading of the clock is as early as each call. -/
theorem exists_reading_le (reading : γ → Int) (calls : List γ) :
    ∃ clock, ∀ c ∈ calls, clock ≤ reading c := by
  obtain ⟨clock, hclock⟩ := exists_reading_ge (fun c => -reading c) calls
  refine ⟨-clock, fun c hc => ?_⟩
  have hle := hclock c hc
  omega

end IssuerGate.Run
