import IssuerGate.Text.Utf8

/-!
Text in one of the Unicode encodings, told apart by a mark at the start or by where the zero bytes
of the first characters stand. Lone surrogates are let through.
-/

namespace IssuerGate

/-- The order of the bytes of a unit. -/
inductive ByteOrder where
  | big
  | little
deriving DecidableEq, Repr

/-- The encodings that are told apart. -/
inductive Encoding where
  | utf8
  | utf16 (order : ByteOrder)
  | utf32 (order : ByteOrder)
deriving DecidableEq, Repr

namespace Encoding

/-- The encoding that a mark at the start names, and the bytes after the mark. -/
def marked? : Bytes → Option (Encoding × Bytes)
  | 0x00 :: 0x00 :: 0xFE :: 0xFF :: rest => some (utf32 .big, rest)
  | 0xFF :: 0xFE :: 0x00 :: 0x00 :: rest => some (utf32 .little, rest)
  | 0xFE :: 0xFF :: rest => some (utf16 .big, rest)
  | 0xFF :: 0xFE :: rest => some (utf16 .little, rest)
  | 0xEF :: 0xBB :: 0xBF :: rest => some (utf8, rest)
  | _ => none

/-- The encoding that the zero bytes give away when the first character is ASCII. -/
def guess : Bytes → Encoding
  | a :: b :: c :: d :: _ =>
    -- the zero bytes of an ASCII character stand where the order puts its high bytes
    if a == 0 then (if b == 0 then utf32 .big else utf16 .big)
    else if b == 0 then (if c == 0 && d == 0 then utf32 .little else utf16 .little)
    else utf8
  | [a, b] => if a == 0 then utf16 .big else if b == 0 then utf16 .little else utf8
  | _ => utf8

/-- The bytes of a unit as a number. -/
def unit (order : ByteOrder) (bs : Bytes) : Nat :=
  match order with
  | .big => bs.foldl (fun n b => n * 256 + b.toNat) 0
  | .little => bs.foldr (fun b n => n * 256 + b.toNat) 0

/-- The units of two bytes; bytes must not be left over. -/
def units16? (order : ByteOrder) : Bytes → Option (List Nat)
  | [] => some []
  | a :: b :: rest => (units16? order rest).map (unit order [a, b] :: ·)
  | [_] => none

/-- Joins the surrogate pairs among units of two bytes. -/
def joinPairs : List Nat → List Nat
  | [] => []
  | [u] => [u]
  | u :: v :: rest =>
    if 0xD800 ≤ u ∧ u < 0xDC00 ∧ 0xDC00 ≤ v ∧ v < 0xE000 then
      (0x10000 + (u - 0xD800) * 0x400 + (v - 0xDC00)) :: joinPairs rest
    else u :: joinPairs (v :: rest)

/-- The units of four bytes; bytes must not be left over. -/
def units32? (order : ByteOrder) : Bytes → Option (List Nat)
  | [] => some []
  | a :: b :: c :: d :: rest => (units32? order rest).map (unit order [a, b, c, d] :: ·)
  | _ => none

/-- The text of bytes in an encoding. -/
def decode? (bs : Bytes) : Encoding → Option Text
  | utf8 =>
    let d := Utf8.decode true bs
    if d.fault.isNone then some d.text else none
  | utf16 order => (units16? order bs).bind fun us => (joinPairs us).mapM CodePoint.ofNat?
  | utf32 order => (units32? order bs).bind fun us => us.mapM CodePoint.ofNat?

/-- The text of bytes in whichever encoding they are. -/
def detect? (bs : Bytes) : Option Text :=
  match marked? bs with
  | some (e, rest) => e.decode? rest
  | none => (guess bs).decode? bs

end Encoding

end IssuerGate
