/-!
Whole numbers of sixty-four bits with a sign.
-/

namespace IssuerGate.Word

/-- The numbers lie below this, and not below its opposite. -/
def bound : Int := 0x8000000000000000

def fits (i : Int) : Bool := -bound ≤ i && i < bound

end IssuerGate.Word
