import IssuerGate.Json

/-!
Values within values: what holds of all of them, and where they are nested too deep.
-/

namespace IssuerGate.Json

mutual

/-- Does something hold of a value and of all values within it? -/
def all (p : Json → Bool) : Json → Bool
  | arr xs => p (arr xs) && allItems p xs
  | obj ms => p (obj ms) && allMembers p ms
  | v => p v

def allItems (p : Json → Bool) : List Json → Bool
  | [] => true
  | v :: vs => all p v && allItems p vs

def allMembers (p : Json → Bool) : List (Text × Json) → Bool
  | [] => true
  | (_, v) :: ms => all p v && allMembers p ms

end

/-- Are all doubles numbers? -/
def isFinite (v : Json) : Bool :=
  v.all fun
    | num x => x.isFinite
    | _ => true

/-- Can an encoding carry all texts and names? -/
def isEncodable (v : Json) : Bool :=
  v.all fun
    | str t => t.isEncodable
    | obj ms => ms.all fun m => m.1.isEncodable
    | _ => true

/-- What is met first where values are nested too deep: something simple that a little more room
would do for, or a value for which there is no room at all. -/
inductive Overrun where
  | simple
  | any
deriving DecidableEq, Repr

/-- Every value takes room of two, which is free again behind it. Something simple takes one more,
which an array or object leaves to what is within it. -/
def overrunSimple? (room : Nat) : Option Overrun :=
  if room < 2 then some .any else if room < 3 then some .simple else none

mutual

/-- Where a value overruns its room, if it does. Names take room as simple values do. -/
def overrun? (room : Nat) : Json → Option Overrun
  | arr xs => if room < 2 then some .any else overrunItems? (room - 2) xs
  | obj ms => if room < 2 then some .any else overrunMembers? (room - 2) ms
  | _ => overrunSimple? room

def overrunItems? (room : Nat) : List Json → Option Overrun
  | [] => none
  | v :: vs => (overrun? room v).or (overrunItems? room vs)

def overrunMembers? (room : Nat) : List (Text × Json) → Option Overrun
  | [] => none
  | (_, v) :: ms =>
    (overrunSimple? room).or ((overrun? room v).or (overrunMembers? room ms))

end

end IssuerGate.Json
