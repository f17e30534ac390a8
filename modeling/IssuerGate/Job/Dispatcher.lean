import IssuerGate.Job.Backend

/-!
The dispatcher: it accepts jobs while it is open and few are pending, and a single worker hands the
accepted ones to a sink, oldest first. A job that is refused or that the sink does not take is
logged and given up.
-/

namespace IssuerGate

/-- A dispatcher over a sink. An immediate one runs each job as it is submitted. -/
structure Dispatcher (σ : Type) where
  sink : σ
  maxPending : Nat
  immediate : Bool
  pending : List Job := []
  closed : Bool := false
  one_le_maxPending : 1 ≤ maxPending := by omega

namespace Dispatcher

variable {σ : Type} [JobSink σ]

/-- The bound on pending jobs is at least one. -/
def start (sink : σ) (maxPending : Int) (immediate : Bool) : Dispatcher σ where
  sink := sink
  maxPending := max 1 maxPending.toNat
  immediate := immediate

/-- The report of a job that is refused while too many are pending. -/
def refusedFull (j : Job) (pending : Nat) : Log :=
  Log.warning
    ["Dropped ", j.kind.name, " job for issuer ", j.issuer, ": ", Text.ofNat pending,
      " jobs already pending"]

/-- The report of a job that is refused after closing. -/
def refusedClosed (j : Job) : Log :=
  Log.error ["Dropped ", j.kind.name, " job for issuer ", j.issuer, ": dispatcher closed"]

/-- The report of a job that the sink did not take. -/
def notTaken (j : Job) : Log :=
  Log.error ["Failed to enqueue ", j.kind.name, " job for issuer ", j.issuer]

/-- One attempt to hand over a job. -/
def handOver (sink : σ) (j : Job) : Step σ Unit :=
  let s := JobSink.attempt sink j
  ⟨s.state, s.log ++ (if s.answer then [] else notTaken j), ()⟩

/-- Hands over jobs in order. -/
def handOverAll (sink : σ) : List Job → Step σ Unit
  | [] => ⟨sink, [], ()⟩
  | j :: js =>
    let s := handOver sink j
    let rest := handOverAll s.state js
    ⟨rest.state, s.log ++ rest.log, ()⟩

/-- Runs at most `n` pending jobs; the answer is how many ran. -/
def run (d : Dispatcher σ) (n : Nat) : Step (Dispatcher σ) Nat :=
  let due := d.pending.take n
  let s := handOverAll d.sink due
  ⟨{ d with sink := s.state, pending := d.pending.drop n }, s.log, due.length⟩

/-- Accepts a job, or refuses it because too many are pending or the dispatcher is closed; the
answer says which. -/
def submit (d : Dispatcher σ) (j : Job) : Step (Dispatcher σ) Bool :=
  -- a full dispatcher says so even when it is closed
  if d.maxPending ≤ d.pending.length then ⟨d, refusedFull j d.pending.length, false⟩
  else if d.closed then ⟨d, refusedClosed j, false⟩
  else if d.immediate then
    let s := handOver d.sink j
    ⟨{ d with sink := s.state }, s.log, true⟩
  else ⟨{ d with pending := d.pending ++ [j] }, [], true⟩

/-- Refuses jobs from now on; waiting runs the pending ones first. -/
def close (d : Dispatcher σ) (wait : Bool) : Step (Dispatcher σ) Unit :=
  let s := if wait then d.run d.pending.length else ⟨d, [], 0⟩
  ⟨{ s.state with closed := true }, s.log, ()⟩

end Dispatcher

end IssuerGate
