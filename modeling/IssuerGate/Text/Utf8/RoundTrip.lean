import IssuerGate.Text.Utf8

/-!
Reading UTF-8 undoes writing it: `Utf8.decode_encode`, with or without surrogates, by way of one
code point, `Utf8.decodeFrom_encodePoint`.
-/

namespace IssuerGate.Utf8

/-- The value of a code point is decoded to the code point. -/
theorem push_val (c : CodePoint) (d : Decoded) : d.push c.val = { d with text := c :: d.text } := by
  rw [Decoded.push, CodePoint.ofNat?_val]

theorem toNat_ofNat {n : Nat} (h : n < 256) : (UInt8.ofNat n).toNat = n := by
  rw [UInt8.toNat_ofNat']
  omega

/-- A byte that continues a code point is taken for one that does. -/
theorem isContinuation_continuation (n : Nat) : isContinuation (continuation n) = true := by
  have hn : n % 64 < 64 := Nat.mod_lt n (by decide)
  have h : (continuation n).toNat = 0x80 + n % 64 := toNat_ofNat (by omega)
  simp only [isContinuation, Bool.and_eq_true, decide_eq_true_eq, UInt8.le_iff_toNat_le,
    UInt8.lt_iff_toNat_lt, h]
  exact ⟨Nat.le_add_right .., by simp; omega⟩

/-- It carries six bits. -/
theorem payload_continuation (n : Nat) : payload (continuation n) = n % 64 := by
  have hn : n % 64 < 64 := Nat.mod_lt n (by decide)
  have h : (continuation n).toNat = 0x80 + n % 64 := toNat_ofNat (by omega)
  rw [payload, h]
  omega

/-! Sequences of two, three and four bytes, by the range of the lead byte. -/

/-- A head below E0 and one byte that continues it are one code point. -/
theorem decodeFrom_two {a b : UInt8} (surrogates : Bool) (i : Nat) (rest : Bytes)
    (hlo : 0xC2 ≤ a.toNat) (hhi : a.toNat < 0xE0) (hb : isContinuation b = true) :
    decodeFrom surrogates i (a :: b :: rest)
      = (decodeFrom surrogates (i + 2) rest).push (a.toNat % 32 * 64 + payload b) := by
  have h1 : ¬ a < 0x80 := by simp [UInt8.lt_iff_toNat_lt]; omega
  have h2 : ¬ a < 0xC2 := by simp [UInt8.lt_iff_toNat_lt]; omega
  have h3 : ¬ 0xF4 < a := by simp [UInt8.lt_iff_toNat_lt]; omega
  have h4 : a < 0xE0 := by simp [UInt8.lt_iff_toNat_lt]; omega
  have ne (v : UInt8) (hv : 0xE0 ≤ v.toNat) : (a == v) = false := by
    refine beq_eq_false_iff_ne.mpr fun h => ?_
    rw [h] at hhi
    omega
  have h5 : admitsSecond surrogates a b = true := by
    simp [admitsSecond, hb, ne 0xE0 (by decide), ne 0xED (by decide), ne 0xF0 (by decide),
      ne 0xF4 (by decide)]
  rw [decodeFrom.eq_def]
  simp [h1, h2, h3, h4, h5]

/-- A head below F0 and two bytes are one, if the second is admitted. -/
theorem decodeFrom_three {a b c : UInt8} {surrogates : Bool} (i : Nat) (rest : Bytes)
    (hlo : 0xE0 ≤ a.toNat) (hhi : a.toNat < 0xF0) (hb : admitsSecond surrogates a b = true)
    (hc : isContinuation c = true) :
    decodeFrom surrogates i (a :: b :: c :: rest)
      = (decodeFrom surrogates (i + 3) rest).push
          ((a.toNat % 16 * 64 + payload b) * 64 + payload c) := by
  have h1 : ¬ a < 0x80 := by simp [UInt8.lt_iff_toNat_lt]; omega
  have h2 : ¬ a < 0xC2 := by simp [UInt8.lt_iff_toNat_lt]; omega
  have h3 : ¬ 0xF4 < a := by simp [UInt8.lt_iff_toNat_lt]; omega
  have h4 : ¬ a < 0xE0 := by simp [UInt8.lt_iff_toNat_lt]; omega
  have h5 : a < 0xF0 := by simp [UInt8.lt_iff_toNat_lt]; omega
  rw [decodeFrom.eq_def]
  simp [h1, h2, h3, h4, h5, hb, hc]

/-- Any other head and three bytes are one, if the second is admitted. -/
theorem decodeFrom_four {a b c d : UInt8} {surrogates : Bool} (i : Nat) (rest : Bytes)
    (hlo : 0xF0 ≤ a.toNat) (hhi : a.toNat ≤ 0xF4) (hb : admitsSecond surrogates a b = true)
    (hc : isContinuation c = true) (hd : isContinuation d = true) :
    decodeFrom surrogates i (a :: b :: c :: d :: rest)
      = (decodeFrom surrogates (i + 4) rest).push
          (((a.toNat % 8 * 64 + payload b) * 64 + payload c) * 64 + payload d) := by
  have h1 : ¬ a < 0x80 := by simp [UInt8.lt_iff_toNat_lt]; omega
  have h2 : ¬ a < 0xC2 := by simp [UInt8.lt_iff_toNat_lt]; omega
  have h3 : ¬ 0xF4 < a := by simp [UInt8.lt_iff_toNat_lt]; omega
  have h4 : ¬ a < 0xE0 := by simp [UInt8.lt_iff_toNat_lt]; omega
  have h5 : ¬ a < 0xF0 := by simp [UInt8.lt_iff_toNat_lt]; omega
  rw [decodeFrom.eq_def]
  simp [h1, h2, h3, h4, h5, hb, hc, hd]

theorem beq_ofNat (m v : Nat) (hm : m < 256) (hv : v < 256) :
    (UInt8.ofNat m == UInt8.ofNat v) = decide (m = v) := by
  by_cases hmv : m = v
  · simp [hmv]
  · have hne : UInt8.ofNat m ≠ UInt8.ofNat v := fun he => by
      have ht := congrArg UInt8.toNat he
      rw [toNat_ofNat hm, toNat_ofNat hv] at ht
      exact hmv ht
    simp [hmv, hne]

theorem toNat_continuation (n : Nat) : (continuation n).toNat = 0x80 + n % 64 :=
  toNat_ofNat (by omega)

/-- The second of three bytes is admitted if the code point needs three, and is no surrogate or may
be one. -/
theorem admitsSecond_three {surrogates : Bool} {n : Nat} (hlo : 0x800 ≤ n) (hhi : n < 0x10000)
    (hsur : surrogates = true ∨ n < 0xD800 ∨ 0xDFFF < n) :
    admitsSecond surrogates (UInt8.ofNat (0xE0 + n / 4096)) (continuation (n / 64)) = true := by
  have h1 : (UInt8.ofNat (0xE0 + n / 4096) == 0xE0) = decide (0xE0 + n / 4096 = 0xE0) :=
    beq_ofNat _ 0xE0 (by omega) (by decide)
  have h2 : (UInt8.ofNat (0xE0 + n / 4096) == 0xED) = decide (0xE0 + n / 4096 = 0xED) :=
    beq_ofNat _ 0xED (by omega) (by decide)
  have h3 : (UInt8.ofNat (0xE0 + n / 4096) == 0xF0) = false :=
    (beq_ofNat _ 0xF0 (by omega) (by decide)).trans (decide_eq_false (by omega))
  have h4 : (UInt8.ofNat (0xE0 + n / 4096) == 0xF4) = false :=
    (beq_ofNat _ 0xF4 (by omega) (by decide)).trans (decide_eq_false (by omega))
  rw [admitsSecond, isContinuation_continuation, h1, h2, h3, h4]
  -- only two heads admit less than any other: one for what needs two bytes, one for surrogates
  by_cases hfirst : n / 4096 = 0
  · simp [hfirst, UInt8.le_iff_toNat_le, toNat_continuation]
    omega
  · by_cases hmid : n / 4096 = 13
    · rcases hsur with hs | hn
      · simp [hmid, hs]
      · simp [hmid, UInt8.lt_iff_toNat_lt, toNat_continuation]
        omega
    · have hne : ¬ 0xE0 + n / 4096 = 0xED := by omega
      simp [hfirst, hne]

/-- The second of four bytes is admitted if the code point needs four. -/
theorem admitsSecond_four {surrogates : Bool} {n : Nat} (hlo : 0x10000 ≤ n) (hhi : n < 0x110000) :
    admitsSecond surrogates (UInt8.ofNat (0xF0 + n / 262144)) (continuation (n / 4096)) = true := by
  have h1 : (UInt8.ofNat (0xF0 + n / 262144) == 0xE0) = false :=
    (beq_ofNat _ 0xE0 (by omega) (by decide)).trans (decide_eq_false (by omega))
  have h2 : (UInt8.ofNat (0xF0 + n / 262144) == 0xED) = false :=
    (beq_ofNat _ 0xED (by omega) (by decide)).trans (decide_eq_false (by omega))
  have h3 : (UInt8.ofNat (0xF0 + n / 262144) == 0xF0) = decide (0xF0 + n / 262144 = 0xF0) :=
    beq_ofNat _ 0xF0 (by omega) (by decide)
  have h4 : (UInt8.ofNat (0xF0 + n / 262144) == 0xF4) = decide (0xF0 + n / 262144 = 0xF4) :=
    beq_ofNat _ 0xF4 (by omega) (by decide)
  rw [admitsSecond, isContinuation_continuation, h1, h2, h3, h4]
  -- as before: one head for what needs three bytes, one for what lies beyond the last code point
  by_cases hfirst : n / 262144 = 0
  · simp [hfirst, UInt8.le_iff_toNat_le, toNat_continuation]
    omega
  · by_cases hlast : n / 262144 = 4
    · simp [hlast, UInt8.lt_iff_toNat_lt, toNat_continuation]
      omega
    · have hne : ¬ 0xF0 + n / 262144 = 0xF4 := by omega
      simp [hfirst, hne]

/-- One code point is read back from its bytes. -/
theorem decodeFrom_encodePoint {surrogates : Bool} {c : CodePoint}
    (h : surrogates = true ∨ c.char?.isSome = true) (i : Nat) (rest : Bytes) :
    decodeFrom surrogates i (encodePoint c ++ rest)
      = (decodeFrom surrogates (i + (encodePoint c).length) rest).push c.val := by
  have hmax := c.val_lt
  have hsur : surrogates = true ∨ c.val < 0xD800 ∨ 0xDFFF < c.val :=
    h.imp id CodePoint.not_surrogate_val
  revert hmax hsur
  rw [encodePoint]
  generalize c.val = n
  intro hmax hsur
  -- one byte, or the head by which two, three or four begin
  by_cases h1 : n < 0x80
  · have ha : (UInt8.ofNat n).toNat = n := toNat_ofNat (by omega)
    have hlt : UInt8.ofNat n < 0x80 := by
      rw [UInt8.lt_iff_toNat_lt, ha]
      exact h1
    simp only [h1, if_true, List.cons_append, List.nil_append]
    rw [decodeFrom.eq_def]
    simp [hlt, ha]
  · by_cases h2 : n < 0x800
    · have ha : (UInt8.ofNat (0xC0 + n / 64)).toNat = 0xC0 + n / 64 := toNat_ofNat (by omega)
      have hval : (0xC0 + n / 64) % 32 * 64 + n % 64 = n := by omega
      simp only [h1, h2, if_true, if_false, List.cons_append, List.nil_append]
      rw [decodeFrom_two surrogates i rest (by omega) (by omega)
        (isContinuation_continuation n), ha, payload_continuation, hval]
      rfl
    · by_cases h3 : n < 0x10000
      · have ha : (UInt8.ofNat (0xE0 + n / 4096)).toNat = 0xE0 + n / 4096 :=
          toNat_ofNat (by omega)
        have hval : ((0xE0 + n / 4096) % 16 * 64 + n / 64 % 64) * 64 + n % 64 = n := by omega
        simp only [h1, h2, h3, if_true, if_false, List.cons_append, List.nil_append]
        rw [decodeFrom_three i rest (by omega) (by omega)
          (admitsSecond_three (by omega) h3 hsur) (isContinuation_continuation n), ha,
          payload_continuation, payload_continuation, hval]
        rfl
      · have ha : (UInt8.ofNat (0xF0 + n / 262144)).toNat = 0xF0 + n / 262144 :=
          toNat_ofNat (by omega)
        have hval : (((0xF0 + n / 262144) % 8 * 64 + n / 4096 % 64) * 64 + n / 64 % 64) * 64
            + n % 64 = n := by omega
        simp only [h1, h2, h3, if_false, List.cons_append, List.nil_append]
        rw [decodeFrom_four i rest (by omega) (by omega) (admitsSecond_four (by omega) hmax)
          (isContinuation_continuation _) (isContinuation_continuation n), ha,
          payload_continuation, payload_continuation, payload_continuation, hval]
        rfl

/-- A text that can be encoded is read back, and any text where surrogates are let through. -/
theorem decodeFrom_encode {surrogates : Bool} {t : Text}
    (h : surrogates = true ∨ t.isEncodable = true) (i : Nat) :
    decodeFrom surrogates i (encode t) = ⟨t, none⟩ := by
  induction t generalizing i with
  | nil => rfl
  | cons c t ih =>
    have hc : surrogates = true ∨ c.char?.isSome = true :=
      h.imp id fun h => (List.all_eq_true.mp h) c List.mem_cons_self
    have ht : surrogates = true ∨ Text.isEncodable t = true :=
      h.imp id fun h => by
        rw [Text.isEncodable, List.all_cons, Bool.and_eq_true] at h
        exact h.2
    change decodeFrom surrogates i (encodePoint c ++ encode t) = _
    rw [decodeFrom_encodePoint hc, ih ht, push_val]

/-- A text is read back from its bytes: any text if surrogates are let through, and otherwise any
without them. -/
theorem decode_encode {surrogates : Bool} {t : Text}
    (h : surrogates = true ∨ t.isEncodable = true) : decode surrogates (encode t) = ⟨t, none⟩ :=
  decodeFrom_encode h 0

/-- Characters that were encoded are decoded. -/
theorem chars?_encode (cs : List Char) : chars? (encode (Text.ofChars cs)) = some cs := by
  have h : (Text.ofChars cs).isEncodable = true := by
    simp [Text.isEncodable, Text.ofChars, CodePoint.char?]
  rw [chars?, decode_encode (Or.inr h)]
  exact Text.chars?_ofChars cs

end IssuerGate.Utf8
