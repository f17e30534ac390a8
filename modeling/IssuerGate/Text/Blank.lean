import IssuerGate.Text.CodePoint

/-!
White space: the code points that `strip` takes off both ends of a line.
-/

namespace IssuerGate

namespace CodePoint

/-- White space within ASCII, without the information separators: tab to carriage return, space. -/
def isAsciiBlank (c : CodePoint) : Bool :=
  (9 ≤ c.val && c.val ≤ 13) || c.val == 32

/-- White space by bidirectional class or by category `Zs`. -/
def isBlank (c : CodePoint) : Bool :=
  (9 ≤ c.val && c.val ≤ 13) || (0x1C ≤ c.val && c.val ≤ 0x20) || c.val == 0x85 || c.val == 0xA0
    || c.val == 0x1680 || (0x2000 ≤ c.val && c.val ≤ 0x200A) || c.val == 0x2028 || c.val == 0x2029
    || c.val == 0x202F || c.val == 0x205F || c.val == 0x3000

end CodePoint

namespace Text

/-- The text without the code points of a class at its two ends. -/
def stripBy (p : CodePoint → Bool) (t : Text) : Text :=
  ((t.dropWhile p).reverse.dropWhile p).reverse

/-- The text without white space at its ends. -/
def strip (t : Text) : Text := t.stripBy CodePoint.isBlank

end Text

end IssuerGate
