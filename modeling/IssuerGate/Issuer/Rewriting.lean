import IssuerGate.Issuer.File

/-!
How a file is rewritten.

A file is never written in place. The records go line by line to a copy beside it, and the copy takes
the place of the file once the last line is in it. A record that cannot be written ends this, and
what there is of the copy then is of no use.
-/

namespace IssuerGate.Issuer

/-- A file, and the copy beside it that is to take its place. -/
structure Rewriting where
  file : File
  copy : Option (List Char) := none

namespace Rewriting

inductive Move where
  | start
  | line (r : Record)
  | replace

/-- One move, with room for what is nested in a record. -/
def move (room : Nat) (w : Rewriting) : Move → Rewriting × Except Record.WriteFault Unit
  | .start => ({ w with copy := some [] }, .ok ())
  | .line r =>
    match r.lineChars room with
    | .ok l => ({ w with copy := w.copy.map (· ++ l) }, .ok ())
    | .error e => (w, .error e)
  | .replace =>
    match w.copy with
    | some cs => (⟨{ w.file with content := some (.text cs) }, none⟩, .ok ())
    | none => (w, .ok ())

/-- Moves one after the other, up to one that fails. -/
def run (room : Nat) (w : Rewriting) : List Move → Rewriting × Except Record.WriteFault Unit
  | [] => (w, .ok ())
  | m :: ms =>
    match w.move room m with
    | (w, .ok ()) => w.run room ms
    | (w, .error e) => (w, .error e)

/-- What it takes to give a file these records. -/
def moves (rs : List Record) : List Move := .start :: rs.map .line ++ [.replace]

end Rewriting

/-- Rewrites a file with records. It is given as it is then, also if one of the records cannot be
written. -/
def File.rewrite (f : File) (b : File.Bounds) (rs : List Record) :
    File × Except Record.WriteFault Unit :=
  let (w, outcome) := Rewriting.run b.room ⟨f, none⟩ (Rewriting.moves rs)
  (w.file, outcome)

end IssuerGate.Issuer
