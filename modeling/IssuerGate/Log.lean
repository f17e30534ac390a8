import IssuerGate.Text.Numeral

/-!
Log records, and what a logged step gives.
-/

namespace IssuerGate

inductive Level where
  | debug
  | info
  | warning
  | error
deriving DecidableEq, Repr

def Level.name : Level → Text
  | debug => "DEBUG"
  | info => "INFO"
  | warning => "WARNING"
  | error => "ERROR"

/-- A record: how much it matters and what it says. -/
structure Log.Entry where
  level : Level
  message : Text
deriving DecidableEq, Repr

/-- The records of a step, oldest first. -/
abbrev Log := List Log.Entry

namespace Log

/-! One record, its message given in pieces. -/

def debug (pieces : List Text) : Log := [⟨.debug, pieces.flatten⟩]

def info (pieces : List Text) : Log := [⟨.info, pieces.flatten⟩]

def warning (pieces : List Text) : Log := [⟨.warning, pieces.flatten⟩]

def error (pieces : List Text) : Log := [⟨.error, pieces.flatten⟩]

/-- The records that an operator has to look at. -/
def troubles (log : Log) : Log := log.filter fun e => e.level == .warning || e.level == .error

end Log

/-- What a step leaves: the next state, the records it logged and its answer. -/
structure Step (σ α : Type) where
  state : σ
  log : Log
  answer : α
deriving Repr

end IssuerGate
