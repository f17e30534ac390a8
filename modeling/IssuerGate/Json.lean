import IssuerGate.Binary64
import IssuerGate.Text.CodePoint

/-!
JSON values.

Whole numbers keep every digit and stay apart from doubles. An object is the list of its members in
the order in which their names first appear.
-/

namespace IssuerGate

/-- A JSON value; an object has each name once. -/
inductive Json where
  | null
  | bool (b : Bool)
  | int (i : Int)
  | num (x : Binary64)
  | str (t : Text)
  | arr (items : List Json)
  | obj (members : List (Text × Json))
deriving Repr, Inhabited

namespace Json

/-- The value of the first member with a name. -/
def lookup (name : Text) : List (Text × Json) → Option Json
  | [] => none
  | (k, v) :: rest => if k = name then some v else lookup name rest

/-- Sets a member: in its old place if the name is there, at the end if it is new. -/
def setMember (name : Text) (v : Json) : List (Text × Json) → List (Text × Json)
  | [] => [(name, v)]
  | (k, old) :: rest => if k = name then (k, v) :: rest else (k, old) :: setMember name v rest

/-- The members of an object whose text names a member more than once: the last value counts. -/
def collect (ms : List (Text × Json)) : List (Text × Json) :=
  ms.foldl (fun seen (k, v) => setMember k v seen) []

/-- A member of an object; other values have none. -/
def member? (name : Text) : Json → Option Json
  | obj ms => lookup name ms
  | _ => none

/-- Null, false, zero and the empty text, array and object are false; all else is true. -/
def isTruthy : Json → Bool
  | null => false
  | bool b => b
  | int i => i != 0
  | num x => !x.isZero
  | str t => !t.isEmpty
  | arr xs => !xs.isEmpty
  | obj ms => !ms.isEmpty

/-- Is the value this text? -/
def isText (t : Text) : Json → Bool
  | str s => s == t
  | _ => false

/-- A value that is a certain text is the string of it. -/
theorem eq_of_isText {t : Text} {v : Json} (h : v.isText t = true) : v = str t := by
  unfold isText at h
  split at h
  · rw [beq_iff_eq.mp h]
  · cases h

def ofString (s : String) : Json := str (Text.ofString s)

end Json

end IssuerGate
