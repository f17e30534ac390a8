import IssuerGate.Text.CodePoint

/-!
UTF-8, strict or with surrogates let through.

`Utf8.decode` keeps what stands before the first fault and says where the fault shows: at a byte
that cannot continue its sequence, or only at the end of the input.
-/

namespace IssuerGate

abbrev Bytes := List UInt8

namespace Utf8

/-- Where an input stops being UTF-8. -/
inductive Fault where
  | invalid (offset : Nat)
  | truncated
deriving DecidableEq, Repr

/-- The code points before the first fault, and the fault. -/
structure Decoded where
  text : Text
  fault : Option Fault
deriving Repr

/-- Puts the code point of a number in front. -/
def Decoded.push (c : Nat) (d : Decoded) : Decoded :=
  match CodePoint.ofNat? c with
  | some p => { d with text := p :: d.text }
  | none => d

def isContinuation (b : UInt8) : Bool := 0x80 ≤ b && b < 0xC0

/-- The values of the second byte that a lead byte admits: they exclude overlong forms, numbers out
of range and, unless let through, surrogates. -/
def admitsSecond (surrogates : Bool) (lead second : UInt8) : Bool :=
  isContinuation second &&
    (if lead == 0xE0 then 0xA0 ≤ second
     else if lead == 0xED then surrogates || second < 0xA0
     else if lead == 0xF0 then 0x90 ≤ second
     else if lead == 0xF4 then second < 0x90
     else true)

/-- The fault of a sequence whose second byte is not admitted, where the lead byte has an offset. It
shows at the second byte; only a surrogate waits for its third byte. -/
def secondFault (i : Nat) (lead second : UInt8) (rest : Bytes) : Fault :=
  if lead == 0xED && isContinuation second then
    if rest.isEmpty then .truncated else .invalid (i + 2)
  else .invalid (i + 1)

/-- The low six bits of a continuation byte. -/
def payload (b : UInt8) : Nat := b.toNat % 64

/-- Decodes bytes of which the first has a given offset. -/
def decodeFrom (surrogates : Bool) : Nat → Bytes → Decoded
  | _, [] => ⟨[], none⟩
  | i, a :: rest =>
    -- one byte
    if a < 0x80 then (decodeFrom surrogates (i + 1) rest).push a.toNat
    -- no sequence starts with such a byte
    else if a < 0xC2 || 0xF4 < a then ⟨[], some (.invalid i)⟩
    else
      match rest with
      | [] => ⟨[], some .truncated⟩
      | b :: rest =>
        if !admitsSecond surrogates a b then ⟨[], some (secondFault i a b rest)⟩
        else if a < 0xE0 then
          (decodeFrom surrogates (i + 2) rest).push (a.toNat % 32 * 64 + payload b)
        else
          match rest with
          | [] => ⟨[], some .truncated⟩
          | c :: rest =>
            if !isContinuation c then ⟨[], some (.invalid (i + 2))⟩
            else if a < 0xF0 then
              (decodeFrom surrogates (i + 3) rest).push
                ((a.toNat % 16 * 64 + payload b) * 64 + payload c)
            else
              match rest with
              | [] => ⟨[], some .truncated⟩
              | d :: rest =>
                if !isContinuation d then ⟨[], some (.invalid (i + 3))⟩
                else
                  (decodeFrom surrogates (i + 4) rest).push
                    (((a.toNat % 8 * 64 + payload b) * 64 + payload c) * 64 + payload d)

/-- Decodes bytes, letting surrogates through if asked to. -/
def decode (surrogates : Bool) (bs : Bytes) : Decoded := decodeFrom surrogates 0 bs

/-- The characters of bytes that are UTF-8 without surrogates. -/
def chars? (bs : Bytes) : Option (List Char) :=
  let d := decode false bs
  if d.fault.isNone then d.text.chars? else none

/-- A continuation byte with the last six bits of a number. -/
def continuation (n : Nat) : UInt8 := UInt8.ofNat (0x80 + n % 64)

/-- The bytes of a code point. A surrogate gets the three bytes that its number asks for. -/
def encodePoint (c : CodePoint) : Bytes :=
  let n := c.val
  if n < 0x80 then [UInt8.ofNat n]
  else if n < 0x800 then [UInt8.ofNat (0xC0 + n / 64), continuation n]
  else if n < 0x10000 then
    [UInt8.ofNat (0xE0 + n / 4096), continuation (n / 64), continuation n]
  else
    [UInt8.ofNat (0xF0 + n / 262144), continuation (n / 4096), continuation (n / 64),
      continuation n]

/-- The bytes of a text, surrogates let through. -/
def encode (t : Text) : Bytes := t.flatMap encodePoint

end Utf8

end IssuerGate
