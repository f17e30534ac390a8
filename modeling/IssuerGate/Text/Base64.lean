import IssuerGate.Text.Utf8

/-!
Base64 with padding. The writer is canonical. The reader is lenient: it passes over characters
outside the alphabet and padding that closes nothing, and stops at the first padding that completes
a group of four.
-/

namespace IssuerGate.Base64

/-- The letter of a six-bit value. -/
def letter (n : Nat) : CodePoint :=
  .scalar (Char.ofNat
    (if n < 26 then 65 + n else if n < 52 then 71 + n else if n < 62 then n - 4
     else if n = 62 then 43 else 47))

/-- The six-bit value of a letter. -/
def value? (c : CodePoint) : Option Nat :=
  let v := c.val
  if 65 ≤ v ∧ v ≤ 90 then some (v - 65)
  else if 97 ≤ v ∧ v ≤ 122 then some (v - 71)
  else if 48 ≤ v ∧ v ≤ 57 then some (v + 4)
  else if v = 43 then some 62
  else if v = 47 then some 63
  else none

def pad : CodePoint := .scalar '='

/-- Three bytes as four letters, and what is left with padding. -/
def encode : Bytes → Text
  | [] => []
  | [a] => [letter (a.toNat / 4), letter (a.toNat % 4 * 16), pad, pad]
  | [a, b] =>
    [letter (a.toNat / 4), letter (a.toNat % 4 * 16 + b.toNat / 16), letter (b.toNat % 16 * 4), pad]
  | a :: b :: c :: rest =>
    letter (a.toNat / 4) :: letter (a.toNat % 4 * 16 + b.toNat / 16)
      :: letter (b.toNat % 16 * 4 + c.toNat / 64) :: letter (c.toNat % 64) :: encode rest

/-- A group of up to four letters on its way to bytes. -/
inductive Group where
  | empty
  | one (a : Nat)
  | two (a b : Nat)
  | three (a b c : Nat)

namespace Group

/-- The whole bytes that the letters of an open group already hold. -/
def bytes : Group → Bytes
  | empty | one _ => []
  | two a b => [UInt8.ofNat (a * 4 + b / 16)]
  | three a b c => [UInt8.ofNat (a * 4 + b / 16), UInt8.ofNat (b % 16 * 16 + c / 4)]

/-- Does padding number `pads` complete the group? -/
def closedBy (pads : Nat) : Group → Bool
  | empty | one _ => false
  | two .. => 2 ≤ pads
  | three .. => 1 ≤ pads

/-- Padding counts only once two letters of the group are there. -/
def countsPadding : Group → Bool
  | empty | one _ => false
  | two .. | three .. => true

end Group

/-- Reads on inside a group, after `pads` paddings since its last letter. -/
def decodeFrom : Group → Nat → Text → Option Bytes
  | .empty, _, [] => some []
  | _, _, [] => none
  | g, pads, c :: rest =>
    if c = pad then
      -- what follows padding that closes a group is not read
      let pads := if g.countsPadding then pads + 1 else pads
      if g.closedBy pads then some g.bytes else decodeFrom g pads rest
    else
      match value? c with
      | none => decodeFrom g pads rest
      | some v =>
        match g with
        | .empty => decodeFrom (.one v) 0 rest
        | .one a => decodeFrom (.two a v) 0 rest
        | .two a b => decodeFrom (.three a b v) 0 rest
        | .three a b x =>
          (decodeFrom .empty 0 rest).map
            ((Group.three a b x).bytes ++ UInt8.ofNat (x % 4 * 64 + v) :: ·)

/-- Refuses text beyond ASCII and text that ends inside a group. -/
def decode? (t : Text) : Option Bytes :=
  if t.isAscii then decodeFrom .empty 0 t else none

end IssuerGate.Base64
