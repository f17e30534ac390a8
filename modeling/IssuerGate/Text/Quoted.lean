import IssuerGate.Text.Printable

/-!
Text as a quoted literal on one line, as containers and error messages show it.
-/

namespace IssuerGate.Text

/-- The apostrophe, the quote of choice. -/
def apostrophe : CodePoint := .scalar (Char.ofNat 39)

def quotationMark : CodePoint := .scalar '"'

def hexDigit (n : Nat) : CodePoint :=
  .scalar (Char.ofNat (if n < 10 then 48 + n else 87 + n))

/-- The last `width` hexadecimal digits of a number, in small letters. -/
def hexDigits : Nat → Nat → Text
  | 0, _ => []
  | width + 1, n => hexDigits width (n / 16) ++ [hexDigit (n % 16)]

/-- A code point between quotes: the quote and the backslash are escaped, and so is all that does
not print, in the shortest of the widths two, four and eight. -/
def quotedPoint (quote c : CodePoint) : Text :=
  if c = quote ∨ c = .scalar '\\' then [.scalar '\\', c]
  else if c = .scalar '\n' then "\\n"
  else if c = .scalar '\r' then "\\r"
  else if c = .scalar '\t' then "\\t"
  else if c.isPrintable then [c]
  else if c.val < 0x100 then Text.ofString "\\x" ++ hexDigits 2 c.val
  else if c.val < 0x10000 then Text.ofString "\\u" ++ hexDigits 4 c.val
  else Text.ofString "\\U" ++ hexDigits 8 c.val

/-- The quotation mark serves only where it saves escaping apostrophes. -/
def quoteFor (t : Text) : CodePoint :=
  if t.contains apostrophe && !t.contains quotationMark then quotationMark else apostrophe

/-- A text between quotes. -/
def quoted (t : Text) : Text :=
  let quote := quoteFor t
  quote :: t.flatMap (quotedPoint quote) ++ [quote]

end IssuerGate.Text
