import IssuerGate.Proofs.Limiter.Run

/-!
# IssuerGate — limiters that are given counters

Counters that are given to a limiter bring a window of their own, beside the one of its quota.

* **`perform_withWindow`** — the window of the quota has no say in a call: only that of the counters
  has. So two limiters that differ in it alone answer each run alike, `Alike.transcript`.
* **`counters_start_some_iff`** — the given counters are taken if they hold a bucket, and otherwise
  only if they are what the limiter would have opened for itself.
* **`transcript_start_some`** — what follows for runs: a limiter that takes the given counters is
  the one they call for, `ofGiven`; a limiter that was given none with a bucket behaves as if it had
  been given nothing.
-/

namespace IssuerGate.Limiter

open Counters

/-- The limiter under a quota of another window. -/
def withWindow (l : Limiter) (ms : Int) : Limiter :=
  { l with quota := { l.quota with windowMs := ms } }

/-- The limiter that given counters call for: it starts with their buckets, under a quota of their
window. -/
def ofGiven (q : Quota) (c : Counters) (opened : Int) : Limiter where
  quota := { q with windowMs := c.window }
  counters := c
  lastSweep := opened

/-! ## The window of a quota -/

/-- Counters charge by a window of their own, not by that of the quota. -/
theorem counters_consume_withWindow (c : Counters) (q : Quota) (ms now : Int) (issuer : Json)
    (tier : Tier) (route : Text) :
    c.consume { q with windowMs := ms } now issuer tier route = c.consume q now issuer tier route := by
  cases tier <;> rfl

/-- Nor does the window of the quota enter into sweeping. -/
theorem sweepIfDue_withWindow (l : Limiter) (ms now : Int) :
    (l.withWindow ms).sweepIfDue now
      = ⟨(l.sweepIfDue now).state.withWindow ms, (l.sweepIfDue now).log, ()⟩ := by
  unfold sweepIfDue
  change (if now - l.lastSweep < l.quota.sweepMs then _ else _) = _
  split <;> rfl

section Runs

variable {ρ : Type} [Receiver ρ]

/-- Nor into a consume of the limiter. -/
theorem consume_withWindow (l : Limiter) (r : ρ) (ms now : Int) (issuer : Json) (tier : Tier)
    (route : Text) :
    let x := l.consume r now issuer tier route
    (l.withWindow ms).consume r now issuer tier route
      = ⟨(x.state.1.withWindow ms, x.state.2), x.log, x.answer⟩ := by
  have hcharge := counters_consume_withWindow (l.sweepIfDue now).state.counters
    (l.sweepIfDue now).state.quota ms now issuer tier route
  unfold consume
  rw [sweepIfDue_withWindow]
  dsimp only [withWindow]
  rw [hcharge]
  split
  · rfl
  · split <;> rfl

/-- **One call does not look at the window of the quota.** -/
theorem perform_withWindow (s : Limiter × ρ) (ms : Int) (c : Call) :
    let x := perform s c
    perform (s.1.withWindow ms, s.2) c = ⟨(x.state.1.withWindow ms, x.state.2), x.log, x.answer⟩ := by
  obtain ⟨now, action⟩ := c
  -- only a report of usage looks at the quota again, and there at its limits
  cases action with
  | consume issuer tier route =>
    show Step.mk _ _ _ = _
    rw [consume_withWindow]
    rfl
  | sweep => rfl
  | get issuer route => rfl
  | usage =>
    have hlimit (t : Tier) : (s.1.withWindow ms).quota.limitFor t = s.1.quota.limitFor t := by
      cases t <;> rfl
    have husage : (s.1.withWindow ms).usage now = s.1.usage now := by
      unfold usage
      simp only [hlimit]
      rfl
    show Step.mk _ _ (Answer.reported _) = _
    rw [husage]
    rfl

/-- The second limiter is the first one under a quota of another window. -/
def Alike (ms : Int) (s t : Limiter × ρ) : Prop := t = (s.1.withWindow ms, s.2)

/-- Limiters that differ in that window stay so and answer alike. -/
theorem Alike.perform {ms : Int} {s t : Limiter × ρ} (h : Alike ms s t) (c : Call) :
    Alike ms (perform s c).state (perform t c).state
      ∧ (perform s c).answer = (perform t c).answer := by
  have hstep := perform_withWindow s ms c
  rw [← h] at hstep
  rw [hstep]
  exact ⟨rfl, rfl⟩

/-- **Limiters that differ in the window of their quota alone answer each run alike**, and stay so. -/
theorem Alike.transcript {ms : Int} {s t : Limiter × ρ} (h : Alike ms s t) (calls : List Call) :
    Alike ms (Run.after Limiter.perform s calls) (Run.after Limiter.perform t calls)
      ∧ Run.transcript Limiter.perform s calls = Run.transcript Limiter.perform t calls :=
  Run.transcript_eq_of_simulation (Alike ms) (fun _ _ c h => h.perform c) h calls

/-! ## The start -/

/-- Counters in use are taken as they are. -/
theorem start_some_of_size_ne {c : Counters} (h : c.size ≠ 0) (q : Quota) (opened : Int) :
    start q (some c) opened = ⟨q, c, opened⟩ :=
  congrArg (Limiter.mk q · opened) (if_neg h)

/-- Empty counters are passed over for new ones, which is the slip. -/
theorem start_some_of_size_eq {c : Counters} (h : c.size = 0) (q : Quota) (opened : Int) :
    start q (some c) opened = start q none opened :=
  congrArg (Limiter.mk q · opened) (if_pos h)

/-- Counters without buckets are those that are opened for their window. -/
theorem eq_ofWindow_of_size {c : Counters} (h : c.size = 0) {ms : Int} (hms : c.window = max 1 ms) :
    c = .ofWindow ms := by
  obtain ⟨window, slots, _⟩ := c
  obtain rfl : slots = [] := List.length_eq_zero_iff.mp h
  obtain rfl : window = max 1 ms := hms
  rfl

/-- **Which given counters are taken**: those that hold a bucket, and those without one that the
limiter would have opened itself. -/
theorem counters_start_some_iff (q : Quota) (c : Counters) (opened : Int) :
    (start q (some c) opened).counters = c ↔ c.size ≠ 0 ∨ c.window = max 1 q.windowMs := by
  -- new counters differ from the empty ones given in the window alone
  by_cases h : c.size = 0
  · rw [start_some_of_size_eq h]
    constructor
    · intro hc
      right
      rw [← hc]
      rfl
    · rintro (hne | hwindow)
      · exact absurd h hne
      · exact (eq_ofWindow_of_size h hwindow).symm
  · rw [start_some_of_size_ne h]
    exact ⟨fun _ => Or.inl h, fun _ => rfl⟩

/-- **A limiter uses the counters it is given only if they hold a bucket already.** Then each run is
that of the limiter these counters call for: its window is theirs, and so are its buckets. Counters
without a bucket are put aside, whatever their window is, and each run is that of a limiter which
was given none. -/
theorem transcript_start_some (q : Quota) (c : Counters) (opened : Int) (r : ρ)
    (calls : List Call) :
    let s := (start q (some c) opened, r)
    let t := (ofGiven q c opened, r)
    ((start q (some c) opened).counters = c ↔ c.size ≠ 0 ∨ c.window = max 1 q.windowMs)
      ∧ ((start q (some c) opened).counters = c →
        (Run.after perform s calls).1.window = c.window
          ∧ (Run.after perform s calls).1.counters = (Run.after perform t calls).1.counters
          ∧ (Run.after perform s calls).2 = (Run.after perform t calls).2
          ∧ Run.transcript perform s calls = Run.transcript perform t calls)
      ∧ (c.size = 0 →
        Run.transcript perform s calls = Run.transcript perform (start q none opened, r) calls) := by
  intro s t
  refine ⟨counters_start_some_iff q c opened, fun htaken => ?_, fun hempty => ?_⟩
  · have hstart : start q (some c) opened = ⟨q, c, opened⟩ :=
      congrArg (Limiter.mk q · opened) htaken
    -- taken as given, they go through the run as under a quota of their own window
    have halike : Alike c.window s t := by
      show (ofGiven q c opened, r) = ((start q (some c) opened).withWindow c.window, r)
      rw [hstart]
      rfl
    obtain ⟨hafter, htranscript⟩ := halike.transcript calls
    have hwindow : (Run.after perform s calls).1.window = c.window :=
      Run.after_invariant (fun s : Limiter × ρ => s.1.window = c.window)
        (fun s c hs => (window_perform s c).trans hs) (congrArg Counters.window htaken) calls
    refine ⟨hwindow, ?_, ?_, htranscript⟩
    · rw [hafter]
      rfl
    · rw [hafter]
  · show Run.transcript perform (start q (some c) opened, r) calls = _
    rw [start_some_of_size_eq hempty]

/-- Counters under a short window, with a bucket in which one request counts. -/
def inUse : Counters := (ofWindow 1000).set (.ofString "a") "/x" ⟨0, 1, .free, false⟩

/-- Counters in use keep a window of 1000 where the quota has 60000. -/
theorem transcript_start_some_of_inUse :
    inUse.size ≠ 0 ∧ (start {} (some inUse) 0).window = 1000
      ∧ Run.transcript perform (start {} (some inUse) 0, Listener.broken)
          [⟨999, .consume (.ofString "a") .paid "/x"⟩, ⟨1000, .sweep⟩]
        = [(⟨999, .consume (.ofString "a") .paid "/x"⟩, .decided (.ok ⟨true, 600, 598, 1000⟩)),
          (⟨1000, .sweep⟩, .swept 1)] := by
  have hsize : inUse.size ≠ 0 := by decide
  obtain ⟨htaken, hrun, -⟩ := transcript_start_some {} inUse 0 Listener.broken
    [⟨999, .consume (.ofString "a") .paid "/x"⟩, ⟨1000, .sweep⟩]
  obtain ⟨hwindow, -, -, htranscript⟩ := hrun (htaken.mpr (Or.inl hsize))
  refine ⟨hsize, rfl, ?_⟩
  rw [htranscript]
  rfl

end Runs

/-- Counters without a bucket are put aside, and their window with them. -/
theorem window_start_some_ne :
    ¬ ∀ (q : Quota) (c : Counters) (opened : Int),
      (start q (some c) opened).window = c.window := by
  intro h
  have hwindow := h {} (ofWindow 1000) 0
  exact absurd hwindow (by decide)

end IssuerGate.Limiter
