import IssuerGate.Job.Queue

/-!
Where a dispatcher hands its jobs: the in-process queue, a broker, or a queue that is out of reach.

`JobSink` is all that a dispatcher knows of it: one attempt to add a job, which may fail.
-/

namespace IssuerGate

/-- A receiver of jobs. The answer of an attempt says whether the job was taken. -/
class JobSink (σ : Type) where
  attempt : σ → Job → Step σ Bool

/-- A message broker: it is sent the task of a job, its argument and the name of a queue. The calls
at the `outages` fail. -/
structure Broker where
  queue : Text := Job.queueName
  outages : List Nat := []
  calls : List (Option Job) := []
deriving Repr

/-- One call, which is recorded whether it fails or not. -/
def Broker.attempt (b : Broker) (j : Job) : Step Broker Bool :=
  let ok := !b.outages.contains b.calls.length
  ⟨{ b with calls := b.calls ++ [if ok then some j else none] }, [], ok⟩

inductive Backend where
  | memory (queue : Job.Queue)
  | broker (broker : Broker)
  | down
deriving Repr

def Backend.attempt : Backend → Job → Step Backend Bool
  | memory q, j => ⟨memory (q.push j), Job.Queue.queued j.kind, true⟩
  | broker b, j =>
    let s := b.attempt j
    ⟨broker s.state, s.log, s.answer⟩
  | down, _ => ⟨down, [], false⟩

instance : JobSink Backend := ⟨Backend.attempt⟩

end IssuerGate
