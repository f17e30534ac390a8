import IssuerGate.Job
import IssuerGate.Log
import IssuerGate.Word

/-!
The in-process job queue: it holds a bounded number of jobs and forgets the oldest ones first.
-/

namespace IssuerGate

/-- The jobs, oldest first, and how many of them are kept. -/
structure Job.Queue where
  capacity : Nat
  jobs : List Job
deriving Repr

namespace Job.Queue

/-- Why a number is no capacity. -/
inductive CapacityFault where
  | negative
  | beyondWord
deriving DecidableEq, Repr

def CapacityFault.message : CapacityFault → Text
  | negative => "maxlen must be non-negative"
  | beyondWord => "Python int too large to convert to C ssize_t"

/-- An empty queue of a capacity. A number that is no word is not even compared with zero. -/
def ofCapacity (n : Int) : Except CapacityFault Queue :=
  if !Word.fits n then .error .beyondWord
  else if n < 0 then .error .negative
  else .ok ⟨n.toNat, []⟩

/-- The queue of a process that asks for no particular capacity. -/
def standard : Queue := ⟨1000, []⟩

def size (q : Queue) : Nat := q.jobs.length

/-- Adds a job and drops the oldest ones beyond the capacity. -/
def push (q : Queue) (j : Job) : Queue :=
  let jobs := q.jobs ++ [j]
  { q with jobs := jobs.drop (jobs.length - q.capacity) }

/-- The report of a job that was added. -/
def queued (kind : Job.Kind) : Log :=
  Log.debug ["Queued ", kind.name, " job in memory"]

/-- Adds a job whose kind is given by name, unless the value names no kind. -/
def add? (q : Queue) (kind : Json) (payload : List (Text × Json)) : Option (Step Queue Unit) :=
  (Job.Kind.ofJson? kind).map fun k => ⟨q.push ⟨k, payload⟩, queued k, ()⟩

/-- Hands over the jobs, oldest first, and keeps none. -/
def drain (q : Queue) : Queue × List Job := ({ q with jobs := [] }, q.jobs)

end Job.Queue

end IssuerGate
