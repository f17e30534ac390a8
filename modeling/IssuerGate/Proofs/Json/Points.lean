import IssuerGate.Proofs.Json.RoundTrip

/-!
# IssuerGate — the code points of a written value

`all_write` says what holds of all code points of a written value: besides those of its texts and
names, escaped where they must be, there are only printable ones. So a written value holds no line
end, `le_val_of_mem_write`, and an encoding carries it if and only if it carries the texts,
`isEncodable_write`.
-/

namespace IssuerGate.Json

/-- Does something hold of the code points of a text, or of all the names of an object? -/
def textsHold (q : CodePoint → Bool) : Json → Bool
  | str t => t.all q
  | obj ms => ms.all fun m => m.1.all q
  | _ => true

theorem isPrintableAscii_iff {c : CodePoint} :
    isPrintableAscii c = true ↔ 0x20 ≤ c.val ∧ c.val < 0x80 := by
  unfold isPrintableAscii
  rw [Bool.and_eq_true, decide_eq_true_iff, decide_eq_true_iff]

theorem isPrintableAscii_of_isDigit {c : CodePoint} (h : isDigit c = true) :
    isPrintableAscii c = true := by
  have hrange : 48 ≤ c.val ∧ c.val ≤ 57 := by
    by_contra hrange
    unfold isDigit CodePoint.asciiDigit? at h
    rw [if_neg hrange] at h
    cases h
  exact isPrintableAscii_iff.mpr (by omega)

theorem isPrintableAscii_of_mem_ofInt {i : Int} {c : CodePoint} (h : c ∈ Text.ofInt i) :
    isPrintableAscii c = true := by
  cases i with
  | ofNat n => exact isPrintableAscii_of_isDigit (isDigit_of_mem_ofNat h)
  | negSucc n =>
    rcases List.mem_cons.mp h with rfl | h
    · decide
    · exact isPrintableAscii_of_isDigit (isDigit_of_mem_ofNat h)

theorem isPrintableAscii_hexDigit : ∀ n < 16, isPrintableAscii (Text.hexDigit n) = true := by decide

theorem isPrintableAscii_of_mem_hexDigits {width n : Nat} {c : CodePoint}
    (h : c ∈ Text.hexDigits width n) : isPrintableAscii c = true := by
  induction width generalizing n with
  | zero => cases h
  | succ width ih =>
    rcases List.mem_append.mp h with h | h
    · exact ih h
    · rw [List.mem_singleton.mp h]
      exact isPrintableAscii_hexDigit _ (Nat.mod_lt n (by decide))

theorem isPrintableAscii_ofNat (n : Nat) : (Text.ofNat n).all isPrintableAscii = true :=
  List.all_eq_true.mpr fun _ hc => isPrintableAscii_of_isDigit (isDigit_of_mem_ofNat hc)

theorem isPrintableAscii_zeros (n : Nat) : (Binary64.zeros n).all isPrintableAscii = true := by
  refine List.all_eq_true.mpr fun c hc => ?_
  rw [List.eq_of_mem_replicate hc]
  decide

/-- Digits are laid out with points, zeros, signs and exponent marks between them. -/
theorem isPrintableAscii_layout {ds : Text} (h : ds.all isPrintableAscii = true) (top : Int) :
    (Binary64.layout ds top).all isPrintableAscii = true := by
  have htake (n : Nat) : (ds.take n).all isPrintableAscii = true := by
    rw [List.all_eq_true] at h ⊢
    exact fun c hc => h c (List.mem_of_mem_take hc)
  have hdrop (n : Nat) : (ds.drop n).all isPrintableAscii = true := by
    rw [List.all_eq_true] at h ⊢
    exact fun c hc => h c (List.mem_of_mem_drop hc)
  -- below one, with a point inside or behind, or with an exponent
  unfold Binary64.layout
  split
  · split
    · have hword : (Text.ofString "0.").all isPrintableAscii = true := by decide
      simp only [List.all_append, hword, isPrintableAscii_zeros, h, Bool.and_true]
    · have hpoint : [CodePoint.scalar '.'].all isPrintableAscii = true := by decide
      dsimp only
      split <;>
        simp only [List.all_append, htake, hdrop, isPrintableAscii_zeros, hpoint, Bool.and_true]
  · have hmark : [CodePoint.scalar 'e', .scalar (if top < 0 then '-' else '+')].all
        isPrintableAscii = true := by split <;> decide
    have hexponent : (Text.padded 2 (Text.ofNat top.natAbs)).all isPrintableAscii = true := by
      unfold Text.padded
      rw [List.all_append, isPrintableAscii_ofNat, Bool.and_true]
      exact isPrintableAscii_zeros _
    dsimp only
    rw [List.all_append, List.all_append, hmark, hexponent, Bool.and_true, Bool.and_true]
    split
    · exact h
    · rw [List.all_cons] at h ⊢
      rw [List.all_cons]
      exact h
    · rfl

/-- A double is written in printable characters. -/
theorem isPrintableAscii_writeDouble (x : Binary64) :
    (writeDouble x).all isPrintableAscii = true := by
  have hsign (s : Bool) : (Binary64.sign s).all isPrintableAscii = true := by cases s <;> decide
  cases x with
  | nan s => cases s <;> decide
  | infinite s => cases s <;> decide
  | finite s m e =>
    show (Binary64.text (.finite s m e)).all isPrintableAscii = true
    unfold Binary64.text
    dsimp only
    split
    · have hzero : (Text.ofString "0.0").all isPrintableAscii = true := by decide
      rw [List.all_append, hsign, hzero]
      rfl
    · rw [List.all_append, hsign, Bool.true_and]
      refine isPrintableAscii_layout (List.all_eq_true.mpr fun c hc => ?_) _
      -- only zeros at the end are left out
      have hdigit := (List.dropWhile_sublist _).mem (List.mem_reverse.mp hc)
      exact isPrintableAscii_of_isDigit (isDigit_of_mem_ofNat (List.mem_reverse.mp hdigit))

/-- A code point is written in printable ones or as it is. -/
theorem writePoint_eq_or (c : CodePoint) :
    (c.val < 0x80 ∧ (writePoint c).all isPrintableAscii = true)
      ∨ (¬ isPrintableAscii c = true → 0x80 ≤ c.val) ∧ writePoint c = [c] := by
  -- a letter behind a backslash, four digits behind one, or the code point itself
  rcases writePoint_cases c with ⟨hval, e, -, -, he, hw⟩ | ⟨hval, hw⟩ | ⟨-, -, hval, hw⟩
  · refine Or.inl ⟨hval, ?_⟩
    rw [hw, List.all_cons, List.all_cons, he]
    rfl
  · refine Or.inl ⟨by omega, List.all_eq_true.mpr fun d hd => ?_⟩
    rw [hw] at hd
    rcases List.mem_cons.mp hd with rfl | hd
    · decide
    · rcases List.mem_cons.mp hd with rfl | hd
      · decide
      · exact isPrintableAscii_of_mem_hexDigits hd
  · refine Or.inr ⟨fun h => ?_, hw⟩
    rw [isPrintableAscii_iff] at h
    omega

/-- ASCII, or what else something holds of. -/
def orAscii (p : CodePoint → Bool) (c : CodePoint) : Bool := decide (c.val < 0x80) || p c

section Points

variable {p : CodePoint → Bool} (hp : ∀ c, isPrintableAscii c = true → p c = true)

include hp

/-- A property of every printable code point holds throughout a printable text. -/
theorem all_of_printable {t : Text} (h : t.all isPrintableAscii = true) : t.all p = true := by
  rw [List.all_eq_true] at h ⊢
  exact fun c hc => hp c (h c hc)

/-- What is written for a code point has a property of all printable ones iff the code point has it
or is ASCII. -/
theorem all_writePoint (c : CodePoint) : (writePoint c).all p = orAscii p c := by
  unfold orAscii
  rcases writePoint_eq_or c with ⟨hval, hw⟩ | ⟨hval, hw⟩
  · rw [all_of_printable hp hw, decide_eq_true hval, Bool.true_or]
  · rw [hw, List.all_cons, List.all_nil, Bool.and_true]
    by_cases hc : isPrintableAscii c = true
    · rw [hp c hc, Bool.or_true]
    -- a control character would have been escaped
    · rw [decide_eq_false (Nat.not_lt.mpr (hval hc)), Bool.false_or]

/-- A text is written in code points with the property iff its own outside of ASCII have it. -/
theorem all_writeString (t : Text) :
    (writeString t).all p = t.all (orAscii p) := by
  have hpoints : (t.flatMap writePoint).all p = t.all (orAscii p) := by
    induction t with
    | nil => rfl
    | cons c t ih => rw [List.flatMap_cons, List.all_append, all_writePoint hp, ih, List.all_cons]
  have hmark : [CodePoint.scalar '"'].all p = true := all_of_printable hp (by decide)
  show ([CodePoint.scalar '"'] ++ t.flatMap writePoint ++ [CodePoint.scalar '"']).all p = _
  rw [List.all_append, List.all_append, hpoints, hmark, Bool.true_and, Bool.and_true]

mutual

/-- **The code points of a written value**: something holds of all of them if it holds of the texts
and names as they are written. -/
theorem all_write (v : Json) : (write v).all p = v.all (textsHold (orAscii p)) := by
  cases v with
  | null => exact all_of_printable hp (by decide)
  | bool b => cases b <;> exact all_of_printable hp (by decide)
  | int i =>
    refine all_of_printable hp (List.all_eq_true.mpr fun c hc => ?_)
    exact isPrintableAscii_of_mem_ofInt hc
  | num x => exact all_of_printable hp (isPrintableAscii_writeDouble x)
  | str t => exact all_writeString hp t
  -- of an array or an object the brackets are printable, and the rest is what its parts have
  | arr xs =>
    have hopen : [CodePoint.scalar '['].all p = true := all_of_printable hp (by decide)
    have hclose : [CodePoint.scalar ']'].all p = true := all_of_printable hp (by decide)
    show ([CodePoint.scalar '['] ++ writeItems xs ++ [CodePoint.scalar ']']).all p
      = (true && allItems (textsHold (orAscii p)) xs)
    rw [List.all_append, List.all_append, hopen, hclose, all_writeItems, Bool.and_true]
  | obj ms =>
    have hopen : [CodePoint.scalar '\x7b'].all p = true := all_of_printable hp (by decide)
    have hclose : [CodePoint.scalar '\x7d'].all p = true := all_of_printable hp (by decide)
    show ([CodePoint.scalar '\x7b'] ++ writeMembers ms ++ [CodePoint.scalar '\x7d']).all p
      = (ms.all (fun m => m.1.all (orAscii p)) && allMembers (textsHold (orAscii p)) ms)
    rw [List.all_append, List.all_append, hopen, hclose, all_writeMembers, Bool.and_true,
      Bool.true_and]

/-- The same of items, whose commas and spaces are printable. -/
theorem all_writeItems (xs : List Json) :
    (writeItems xs).all p = allItems (textsHold (orAscii p)) xs := by
  match xs with
  | [] => rfl
  | [v] =>
    rw [writeItems, allItems, allItems, Bool.and_true]
    exact all_write v
  | v :: w :: vs =>
    have hcomma : (Text.ofString ", ").all p = true := all_of_printable hp (by decide)
    rw [writeItems_cons, List.all_append, List.all_append, hcomma, Bool.and_true, all_write v,
      all_writeItems (w :: vs)]
    rfl

/-- The same of members, in whose names the code points count as well. -/
theorem all_writeMembers (ms : List (Text × Json)) :
    (writeMembers ms).all p
      = (ms.all (fun m => m.1.all (orAscii p)) && allMembers (textsHold (orAscii p)) ms) := by
  have hcolon : (Text.ofString ": ").all p = true := all_of_printable hp (by decide)
  match ms with
  | [] => rfl
  | [(k, v)] =>
    rw [writeMembers, List.all_append, List.all_append, hcolon, Bool.and_true,
      all_writeString hp, all_write v]
    show _ = (k.all (orAscii p) && true && (v.all (textsHold (orAscii p)) && true))
    rw [Bool.and_true, Bool.and_true]
  | (k, v) :: m :: ms =>
    have hcomma : (Text.ofString ", ").all p = true := all_of_printable hp (by decide)
    rw [writeMembers_cons, List.all_append, List.all_append, List.all_append, List.all_append,
      hcolon, hcomma, Bool.and_true, Bool.and_true, all_writeString hp, all_write v,
      all_writeMembers (m :: ms)]
    show _ = (k.all (orAscii p) && (m :: ms).all (fun m => m.1.all (orAscii p))
      && (v.all (textsHold (orAscii p)) && allMembers (textsHold (orAscii p)) (m :: ms)))
    -- the two sides list the same conditions in different orders
    ac_rfl

end

end Points

theorem isSome_char?_of_val_lt {c : CodePoint} (h : c.val < 0x80) : c.char?.isSome = true := by
  cases c with
  | scalar c => rfl
  | surrogate k =>
    change 0xD800 + k.val < 0x80 at h
    omega

/-- An encoding carries a written value if and only if it carries the texts in it. -/
theorem isEncodable_write (v : Json) : Text.isEncodable (write v) = v.isEncodable := by
  have hcoded : orAscii (fun c => c.char?.isSome) = fun c => c.char?.isSome := by
    funext c
    by_cases h : c.val < 0x80
    · rw [orAscii, isSome_char?_of_val_lt h, Bool.or_true]
    · rw [orAscii, decide_eq_false h, Bool.false_or]
  have hwrite := all_write (p := fun c => c.char?.isSome)
    (fun c hc => isSome_char?_of_val_lt (isPrintableAscii_iff.mp hc).2) v
  rw [hcoded] at hwrite
  exact hwrite

/-- A written value has no control characters, so no line ends. -/
theorem le_val_of_mem_write {v : Json} {c : CodePoint} (hc : c ∈ write v) : 0x20 ≤ c.val := by
  -- below the space every code point is ASCII, so the condition asks nothing of texts
  have hpoint : ∀ c, orAscii (fun c => decide (0x20 ≤ c.val)) c = true := by
    intro c
    unfold orAscii
    rw [Bool.or_eq_true, decide_eq_true_iff, decide_eq_true_iff]
    omega
  have hheld : ∀ w, textsHold (orAscii fun c => decide (0x20 ≤ c.val)) w = true := by
    intro w
    cases w with
    | str t => exact List.all_eq_true.mpr fun c _ => hpoint c
    | obj ms => exact List.all_eq_true.mpr fun m _ => List.all_eq_true.mpr fun c _ => hpoint c
    | null | bool | int | num | arr => rfl
  have hwrite := all_write (p := fun c => decide (0x20 ≤ c.val))
    (fun c hc => decide_eq_true (isPrintableAscii_iff.mp hc).1) v
  rw [all_of_forall hheld v] at hwrite
  exact of_decide_eq_true (List.all_eq_true.mp hwrite c hc)

end IssuerGate.Json
