import IssuerGate.Json
import IssuerGate.Binary64.Decimal
import IssuerGate.Text.Quoted

/-!
Values as log messages and names show them: a text as it is, all else in a literal form in which
inner texts are quoted.
-/

namespace IssuerGate.Json

mutual

/-- A value as a literal. -/
def literal : Json → Text
  | null => "None"
  | bool true => "True"
  | bool false => "False"
  | int i => Text.ofInt i
  | num x => x.text
  | str t => t.quoted
  | arr xs => .scalar '[' :: literalItems xs ++ [.scalar ']']
  | obj ms => .scalar '\x7b' :: literalMembers ms ++ [.scalar '\x7d']

def literalItems : List Json → Text
  | [] => []
  | [v] => literal v
  | v :: vs => literal v ++ Text.ofString ", " ++ literalItems vs

def literalMembers : List (Text × Json) → Text
  | [] => []
  | [(k, v)] => k.quoted ++ Text.ofString ": " ++ literal v
  | (k, v) :: ms =>
    k.quoted ++ Text.ofString ": " ++ literal v ++ Text.ofString ", " ++ literalMembers ms

end

/-- A value as a message shows it. -/
def display : Json → Text
  | str t => t
  | v => literal v

end IssuerGate.Json
