import IssuerGate.Text.Base64

/-!
The lenient reader of Base64 undoes the writer: `Base64.decode?_encode`.
-/

namespace IssuerGate.Base64

/-- A letter has the value that it stands for. -/
theorem value?_letter : ∀ n < 64, value? (letter n) = some n := by decide

/-- No letter is the padding. -/
theorem letter_ne_pad : ∀ n < 64, letter n ≠ pad := by decide

/-! A letter adds its value to the open group, and the fourth one closes it. -/

theorem decodeFrom_empty_letter {n : Nat} (h : n < 64) (pads : Nat) (t : Text) :
    decodeFrom .empty pads (letter n :: t) = decodeFrom (.one n) 0 t := by
  simp [decodeFrom, value?_letter n h, letter_ne_pad n h]

theorem decodeFrom_one_letter {n : Nat} (h : n < 64) (a pads : Nat) (t : Text) :
    decodeFrom (.one a) pads (letter n :: t) = decodeFrom (.two a n) 0 t := by
  simp [decodeFrom, value?_letter n h, letter_ne_pad n h]

theorem decodeFrom_two_letter {n : Nat} (h : n < 64) (a b pads : Nat) (t : Text) :
    decodeFrom (.two a b) pads (letter n :: t) = decodeFrom (.three a b n) 0 t := by
  simp [decodeFrom, value?_letter n h, letter_ne_pad n h]

/-- The fourth letter of a group completes its three bytes. -/
theorem decodeFrom_three_letter {n : Nat} (h : n < 64) (a b c pads : Nat) (t : Text) :
    decodeFrom (.three a b c) pads (letter n :: t)
      = (decodeFrom .empty 0 t).map
          ((Group.three a b c).bytes ++ UInt8.ofNat (c % 4 * 64 + n) :: ·) := by
  simp [decodeFrom, value?_letter n h, letter_ne_pad n h]

/-- Two letters and two pads are one byte. -/
theorem decodeFrom_two_pads (a b : Nat) :
    decodeFrom (.two a b) 0 [pad, pad] = some (Group.two a b).bytes := by
  simp [decodeFrom, Group.countsPadding, Group.closedBy]

/-- Three letters and a pad are two bytes. -/
theorem decodeFrom_three_pad (a b c : Nat) :
    decodeFrom (.three a b c) 0 [pad] = some (Group.three a b c).bytes := by
  simp [decodeFrom, Group.countsPadding, Group.closedBy]

theorem ofNat_eq {n : Nat} {b : UInt8} (h : n = b.toNat) : UInt8.ofNat n = b := by
  rw [h, UInt8.ofNat_toNat]

/-- Bytes are read back, group by group. -/
theorem decodeFrom_encode (bs : Bytes) : decodeFrom .empty 0 (encode bs) = some bs := by
  fun_induction encode bs with
  | case1 => rfl
  -- one byte is left: its six upper bits, then the two lower ones
  | case2 a =>
    have ha := a.toNat_lt
    have h1 : UInt8.ofNat (a.toNat / 4 * 4 + a.toNat % 4 * 16 / 16) = a := ofNat_eq (by omega)
    rw [decodeFrom_empty_letter (by omega), decodeFrom_one_letter (by omega),
      decodeFrom_two_pads, Group.bytes, h1]
  -- two bytes are left, in three letters
  | case3 a b =>
    have ha := a.toNat_lt
    have hb := b.toNat_lt
    have h1 : UInt8.ofNat (a.toNat / 4 * 4 + (a.toNat % 4 * 16 + b.toNat / 16) / 16) = a :=
      ofNat_eq (by omega)
    have h2 : UInt8.ofNat
        ((a.toNat % 4 * 16 + b.toNat / 16) % 16 * 16 + b.toNat % 16 * 4 / 4) = b :=
      ofNat_eq (by omega)
    rw [decodeFrom_empty_letter (by omega), decodeFrom_one_letter (by omega),
      decodeFrom_two_letter (by omega), decodeFrom_three_pad, Group.bytes, h1, h2]
  -- a whole group, and what follows it
  | case4 a b c rest ih =>
    have ha := a.toNat_lt
    have hb := b.toNat_lt
    have hc := c.toNat_lt
    have h1 : UInt8.ofNat (a.toNat / 4 * 4 + (a.toNat % 4 * 16 + b.toNat / 16) / 16) = a :=
      ofNat_eq (by omega)
    have h2 : UInt8.ofNat
        ((a.toNat % 4 * 16 + b.toNat / 16) % 16 * 16 + (b.toNat % 16 * 4 + c.toNat / 64) / 4) = b :=
      ofNat_eq (by omega)
    have h3 : UInt8.ofNat ((b.toNat % 16 * 4 + c.toNat / 64) % 4 * 64 + c.toNat % 64) = c :=
      ofNat_eq (by omega)
    rw [decodeFrom_empty_letter (by omega), decodeFrom_one_letter (by omega),
      decodeFrom_two_letter (by omega), decodeFrom_three_letter (by omega), ih, Option.map_some,
      Group.bytes, h1, h2, h3]
    rfl

/-- The writer uses letters and padding alone. -/
theorem eq_letter_or_pad_of_mem_encode {bs : Bytes} {c : CodePoint} (h : c ∈ encode bs) :
    (∃ n < 64, c = letter n) ∨ c = pad := by
  fun_induction encode bs with
  | case1 => cases h
  | case2 a =>
    have ha := a.toNat_lt
    simp only [List.mem_cons, List.not_mem_nil, or_false] at h
    rcases h with h | h | h | h
    · exact Or.inl ⟨_, by omega, h⟩
    · exact Or.inl ⟨_, by omega, h⟩
    · exact Or.inr h
    · exact Or.inr h
  | case3 a b =>
    have ha := a.toNat_lt
    have hb := b.toNat_lt
    simp only [List.mem_cons, List.not_mem_nil, or_false] at h
    rcases h with h | h | h | h
    · exact Or.inl ⟨_, by omega, h⟩
    · exact Or.inl ⟨_, by omega, h⟩
    · exact Or.inl ⟨_, by omega, h⟩
    · exact Or.inr h
  | case4 a b c rest ih =>
    have ha := a.toNat_lt
    have hb := b.toNat_lt
    have hc := c.toNat_lt
    simp only [List.mem_cons] at h
    rcases h with h | h | h | h | h
    · exact Or.inl ⟨_, by omega, h⟩
    · exact Or.inl ⟨_, by omega, h⟩
    · exact Or.inl ⟨_, by omega, h⟩
    · exact Or.inl ⟨_, by omega, h⟩
    · exact ih h

/-- Bytes are encoded in ASCII. -/
theorem isAscii_encode (bs : Bytes) : (encode bs).isAscii = true := by
  have hletter : ∀ n < 64, (letter n).isAscii = true := by decide
  refine List.all_eq_true.mpr fun c hc => ?_
  rcases eq_letter_or_pad_of_mem_encode hc with ⟨n, hn, rfl⟩ | rfl
  · exact hletter n hn
  · decide

/-- Bytes that were encoded are decoded. -/
theorem decode?_encode (bs : Bytes) : decode? (encode bs) = some bs := by
  rw [decode?, if_pos (isAscii_encode bs), decodeFrom_encode]

end IssuerGate.Base64
