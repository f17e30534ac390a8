import IssuerGate.Json
import IssuerGate.Binary64.Decimal
import IssuerGate.Text.Quoted

/-!
Writing JSON on one line, with a space after each comma and colon.
-/

namespace IssuerGate.Json

/-- A code point within a string: the quotation mark, the backslash and the control characters are
escaped and all else stands for itself. -/
def writePoint (c : CodePoint) : Text :=
  if c = .scalar '"' then "\\\""
  else if c = .scalar '\\' then "\\\\"
  else if c = .scalar '\n' then "\\n"
  else if c = .scalar '\r' then "\\r"
  else if c = .scalar '\t' then "\\t"
  else if c = .scalar '\x0c' then "\\f"
  else if c = .scalar '\x08' then "\\b"
  else if c.val < 0x20 then Text.ofString "\\u" ++ Text.hexDigits 4 c.val
  else [c]

def writeString (t : Text) : Text := .scalar '"' :: t.flatMap writePoint ++ [.scalar '"']

/-- A double as its shortest text; the values that are no numbers are words. -/
def writeDouble : Binary64 → Text
  | .nan _ => "NaN"
  | .infinite false => "Infinity"
  | .infinite true => "-Infinity"
  | x => x.text

mutual

/-- A value as text. -/
def write : Json → Text
  | null => "null"
  | bool true => "true"
  | bool false => "false"
  | int i => Text.ofInt i
  | num x => writeDouble x
  | str t => writeString t
  | arr xs => .scalar '[' :: writeItems xs ++ [.scalar ']']
  | obj ms => .scalar '\x7b' :: writeMembers ms ++ [.scalar '\x7d']

def writeItems : List Json → Text
  | [] => []
  | [v] => write v
  | v :: vs => write v ++ Text.ofString ", " ++ writeItems vs

def writeMembers : List (Text × Json) → Text
  | [] => []
  | [(k, v)] => writeString k ++ Text.ofString ": " ++ write v
  | (k, v) :: ms =>
    writeString k ++ Text.ofString ": " ++ write v ++ Text.ofString ", " ++ writeMembers ms

end

end IssuerGate.Json
