/-!
Text as a list of code points.

A JSON escape can name a surrogate that no encoding carries, so text that came through JSON is
wider than `String`. `CodePoint` keeps the two kinds apart, and `Text.chars?` tells the texts that
can be written to a file from those that cannot.
-/

namespace IssuerGate

/-- A code point is a Unicode scalar value or one of the 2048 surrogates. -/
inductive CodePoint where
  | scalar (c : Char)
  | surrogate (offset : Fin 2048)
deriving DecidableEq, Repr, Inhabited

namespace CodePoint

/-- The number of a code point; the surrogates start at `0xD800`. -/
def val : CodePoint → Nat
  | scalar c => c.toNat
  | surrogate k => 0xD800 + k.val

/-- The code point with a number, if the number is in range. -/
def ofNat? (n : Nat) : Option CodePoint :=
  if n < 0xD800 then some (scalar (Char.ofNat n))
  else if h : n - 0xD800 < 2048 then some (surrogate ⟨n - 0xD800, h⟩)
  else if n < 0x110000 then some (scalar (Char.ofNat n))
  else none

def isAscii (c : CodePoint) : Bool := c.val < 128

/-- The scalar value of a code point that is one. -/
def char? : CodePoint → Option Char
  | scalar c => some c
  | surrogate _ => none

instance : Coe Char CodePoint := ⟨scalar⟩

/-- A code point is found again by its value. -/
theorem ofNat?_val (c : CodePoint) : ofNat? c.val = some c := by
  cases c with
  | scalar c =>
    have hc : c.toNat < 0xD800 ∨ 0xDFFF < c.toNat ∧ c.toNat < 0x110000 := c.valid
    have hback : Char.ofNat c.toNat = c := Char.ofNat_toNat c
    -- characters lie below the surrogates or beyond them
    by_cases hlow : c.toNat < 0xD800
    · simp [ofNat?, val, hlow, hback]
    · have hhigh : ¬ c.toNat - 0xD800 < 2048 := by omega
      have hmax : c.toNat < 0x110000 := by omega
      simp [ofNat?, val, hlow, hhigh, hmax, hback]
  | surrogate k =>
    have hlow : ¬ 0xD800 + k.val < 0xD800 := by omega
    simp [ofNat?, val, hlow]

/-- No code point lies beyond the last. -/
theorem val_lt (c : CodePoint) : c.val < 0x110000 := by
  cases c with
  | scalar c =>
    have hc : c.toNat < 0xD800 ∨ 0xDFFF < c.toNat ∧ c.toNat < 0x110000 := c.valid
    change c.toNat < 0x110000
    omega
  | surrogate k =>
    have hk := k.isLt
    change 0xD800 + k.val < 0x110000
    omega

/-- The numbers of scalar values leave out those of the surrogates. -/
theorem not_surrogate_val {c : CodePoint} (h : c.char?.isSome = true) :
    c.val < 0xD800 ∨ 0xDFFF < c.val := by
  cases c with
  | scalar c =>
    have hc : c.toNat < 0xD800 ∨ 0xDFFF < c.toNat ∧ c.toNat < 0x110000 := c.valid
    exact hc.imp id And.left
  | surrogate k => simp [char?] at h

end CodePoint

/-- A text, in which surrogates may stand alone. -/
abbrev Text := List CodePoint

namespace Text

def ofChars (cs : List Char) : Text := cs.map .scalar

def ofString (s : String) : Text := ofChars s.toList

instance : Coe String Text := ⟨ofString⟩

/-- The characters of a text without surrogates. -/
def chars? (t : Text) : Option (List Char) := t.mapM CodePoint.char?

def toString? (t : Text) : Option String := t.chars?.map String.ofList

/-- Text that an encoding can carry. -/
def isEncodable (t : Text) : Bool := t.all fun c => c.char?.isSome

def isAscii (t : Text) : Bool := t.all CodePoint.isAscii

/-- Text made of characters has these characters. -/
theorem chars?_ofChars (cs : List Char) : (ofChars cs).chars? = some cs := by
  induction cs with
  | nil => rfl
  | cons c cs ih =>
    rw [chars?, ofChars] at ih
    simp [chars?, ofChars, CodePoint.char?, ih]

/-- Text has certain characters iff it is made of them. -/
theorem chars?_eq_some_iff {t : Text} {cs : List Char} : t.chars? = some cs ↔ t = ofChars cs := by
  refine ⟨fun h => ?_, fun h => h ▸ chars?_ofChars cs⟩
  induction t generalizing cs with
  | nil =>
    have hcs : cs = [] := by simpa [chars?] using h.symm
    simp [hcs, ofChars]
  | cons c t ih =>
    cases c with
    | surrogate k => simp [chars?, CodePoint.char?] at h
    | scalar c =>
      cases ht : Text.chars? t with
      | none =>
        rw [chars?] at ht
        simp [chars?, CodePoint.char?, ht] at h
      | some ds =>
        have htail := ih ht
        rw [chars?] at ht
        have hcs : c :: ds = cs := by simpa [chars?, CodePoint.char?, ht] using h
        rw [← hcs, htail, ofChars, ofChars, List.map_cons]

/-- The pieces between occurrences of `sep`; there is always at least one. -/
def splitOn (sep : CodePoint) : Text → List Text
  | [] => [[]]
  | c :: rest =>
    if c = sep then [] :: splitOn sep rest
    else
      match splitOn sep rest with
      | [] => [[c]]
      | piece :: pieces => (c :: piece) :: pieces

/-- The text before the first `sep` and the text after it, if there is a `sep`. -/
def cut? (sep : CodePoint) : Text → Option (Text × Text)
  | [] => none
  | c :: rest =>
    if c = sep then some ([], rest)
    else (cut? sep rest).map fun (before, after) => (c :: before, after)

/-- A text with a separator behind a part that has none is cut right there. -/
theorem cut?_append {sep : CodePoint} {a : Text} (h : sep ∉ a) (b : Text) :
    cut? sep (a ++ sep :: b) = some (a, b) := by
  induction a with
  | nil => simp [cut?]
  | cons c a ih =>
    have hc : c ≠ sep := fun hc => h (hc ▸ List.mem_cons_self)
    have ha : sep ∉ a := fun ha => h (List.mem_cons_of_mem c ha)
    simp [cut?, hc, ih ha]

/-- A text is not cut iff the separator is not in it. -/
theorem cut?_eq_none_iff {sep : CodePoint} {t : Text} : cut? sep t = none ↔ sep ∉ t := by
  induction t with
  | nil => simp [cut?]
  | cons c t ih =>
    by_cases hc : c = sep
    · simp [cut?, hc]
    · have hsep : ¬ sep = c := fun h => hc h.symm
      simp [cut?, hc, hsep, ih]

/-- At most `n` cuts at `sep`; the last piece keeps what is left. -/
def splitAtMost (sep : CodePoint) : Nat → Text → List Text
  | 0, t => [t]
  | n + 1, t =>
    match cut? sep t with
    | none => [t]
    | some (piece, rest) => piece :: splitAtMost sep n rest

/-- The pieces with `glue` between neighbours. -/
def join (glue : Text) : List Text → Text
  | [] => []
  | [t] => t
  | t :: rest => t ++ glue ++ join glue rest

/-- Order by code points, a shorter text before its continuations. -/
def le : Text → Text → Bool
  | [], _ => true
  | _ :: _, [] => false
  | a :: s, b :: t => a.val < b.val || (a.val == b.val && le s t)

/-- ASCII capitals become small letters and all else stays. -/
def asciiLower (t : Text) : Text :=
  t.map fun
    | .scalar c => .scalar c.toLower
    | c => c

end Text

end IssuerGate
