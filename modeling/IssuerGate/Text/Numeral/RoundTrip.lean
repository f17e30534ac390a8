import IssuerGate.Text.Numeral

/-!
The generous reader of whole numbers undoes the writer: `Text.readInt_ofInt`.
-/

namespace IssuerGate.Text

/-- Nothing is stripped off a text without anything to strip. -/
theorem stripBy_eq_self {p : CodePoint → Bool} {t : Text} (h : ∀ c ∈ t, p c = false) :
    stripBy p t = t := by
  have hfront : ∀ s : Text, (∀ c ∈ s, p c = false) → s.dropWhile p = s := by
    intro s hs
    cases s with
    | nil => rfl
    | cons c s => rw [List.dropWhile_cons_of_neg (by simp [hs c List.mem_cons_self])]
  unfold stripBy
  rw [hfront t h, hfront t.reverse fun c hc => h c (List.mem_reverse.mp hc), List.reverse_reverse]

/-! A digit has a value and is no white space, no sign and no underscore. -/

/-- A decimal digit is written for a number below ten. -/
theorem exists_digitChar {c : Char} (h : c.isDigit = true) : ∃ n < 10, c = Nat.digitChar n := by
  have hrange : 48 ≤ c.toNat ∧ c.toNat ≤ 57 := Char.isDigit_iff_toNat.mp h
  refine ⟨c.toNat - 48, by omega, Char.toNat_inj.mp ?_⟩
  rw [Nat.toNat_digitChar_of_lt_ten (by omega)]
  omega

/-- The value of a decimal digit is its distance from zero. -/
theorem decimalValue?_of_isDigit {c : Char} (h : c.isDigit = true) :
    (CodePoint.scalar c).decimalValue? = some (c.toNat - 48) := by
  have hall : ∀ n < 10, (CodePoint.scalar (Nat.digitChar n)).decimalValue?
      = some ((Nat.digitChar n).toNat - 48) := by decide
  obtain ⟨n, hn, rfl⟩ := exists_digitChar h
  exact hall n hn

/-- A digit is not blank. -/
theorem isNumeralBlank_of_isDigit {c : Char} (h : c.isDigit = true) :
    isNumeralBlank (.scalar c) = false := by
  have hall : ∀ n < 10, isNumeralBlank (.scalar (Nat.digitChar n)) = false := by decide
  obtain ⟨n, hn, rfl⟩ := exists_digitChar h
  exact hall n hn

theorem ne_of_isDigit {c d : Char} (h : c.isDigit = true) (hd : d.isDigit = false) :
    CodePoint.scalar c ≠ .scalar d := by
  intro hsame
  rw [CodePoint.scalar.inj hsame, hd] at h
  cases h

/-- A number is written in decimal digits. -/
theorem isDigit_of_mem_toDigits {n : Nat} {c : Char} (h : c ∈ Nat.toDigits 10 n) :
    c.isDigit = true :=
  Nat.isDigit_of_mem_toDigits (by decide) (by decide) h

/-- Digits without an underscore are read one by one. -/
theorem groupedDigits?_ofChars {cs : List Char} (hne : cs ≠ []) (h : ∀ c ∈ cs, c.isDigit = true) :
    groupedDigits? CodePoint.decimalValue? (ofChars cs) = some (cs.map fun c => c.toNat - 48) := by
  induction cs with
  | nil => exact absurd rfl hne
  | cons c cs ih =>
    have hc := decimalValue?_of_isDigit (h c List.mem_cons_self)
    -- a digit at the end, or in front of another, between which an underscore might stand
    cases cs with
    | nil =>
      show (CodePoint.decimalValue? (.scalar c)).map ([·]) = _
      rw [hc]
      rfl
    | cons d ds =>
      have hrest := ih (List.cons_ne_nil d ds) fun e he => h e (List.mem_cons_of_mem c he)
      have hunderscore : CodePoint.scalar d ≠ .scalar '_' :=
        ne_of_isDigit (h d (List.mem_cons_of_mem c List.mem_cons_self)) (by decide)
      show groupedDigits? CodePoint.decimalValue? (.scalar c :: .scalar d :: ofChars ds) = _
      rw [groupedDigits?, hc]
      dsimp only
      rw [if_neg hunderscore]
      show Option.map _ (groupedDigits? CodePoint.decimalValue? (ofChars (d :: ds))) = _
      rw [hrest]
      rfl

/-- The digits of a number are read back, as many as there are. -/
theorem groupedDigits?_ofNat (n : Nat) :
    ∃ ds, groupedDigits? CodePoint.decimalValue? (ofNat n) = some ds
      ∧ ds.length = (ofNat n).length ∧ valueOfDigits ds = n := by
  refine ⟨_, groupedDigits?_ofChars Nat.toDigits_ne_nil fun c hc => isDigit_of_mem_toDigits hc,
    ?_, ?_⟩
  · unfold ofNat ofChars
    rw [List.length_map, List.length_map]
  · unfold valueOfDigits
    rw [List.foldl_map]
    exact Nat.ofDigitChars_ten_toDigits

/-- A number is written without a sign. -/
theorem signed_ofNat (n : Nat) : signed (ofNat n) = (false, ofNat n) := by
  have hdigits : ∀ c ∈ Nat.toDigits 10 n, c.isDigit = true := fun c hc => isDigit_of_mem_toDigits hc
  unfold ofNat
  revert hdigits
  cases Nat.toDigits 10 n with
  | nil => exact fun _ => rfl
  | cons c cs =>
    intro hdigits
    have hc := hdigits c List.mem_cons_self
    have hminus : CodePoint.scalar c ≠ .scalar '-' := ne_of_isDigit hc (by decide)
    have hplus : CodePoint.scalar c ≠ .scalar '+' := ne_of_isDigit hc (by decide)
    show signed (.scalar c :: ofChars cs) = _
    unfold signed
    split
    · next heq => exact absurd (List.cons.inj heq).1 hminus
    · next heq => exact absurd (List.cons.inj heq).1 hplus
    · rfl

/-- The writer uses a minus sign and digits alone. -/
theorem eq_minus_or_digit_of_mem_ofInt {i : Int} {c : CodePoint} (h : c ∈ ofInt i) :
    c = .scalar '-' ∨ ∃ d : Char, d.isDigit = true ∧ c = .scalar d := by
  have hdigit : ∀ n : Nat, c ∈ ofNat n → ∃ d : Char, d.isDigit = true ∧ c = .scalar d := by
    intro n hc
    obtain ⟨d, hd, rfl⟩ := List.mem_map.mp hc
    exact ⟨d, isDigit_of_mem_toDigits hd, rfl⟩
  cases i with
  | ofNat n => exact Or.inr (hdigit n h)
  | negSucc n =>
    rcases List.mem_cons.mp h with hminus | htail
    · exact Or.inl hminus
    · exact Or.inr (hdigit (n + 1) htail)

/-- A number with its sign is read back if it has no more digits than are read. -/
theorem readInt_of_signed {t : Text} {negative : Bool} {n : Nat}
    (hblank : ∀ c ∈ t, isNumeralBlank c = false) (hsigned : signed t = (negative, ofNat n))
    (hlength : (ofNat n).length ≤ maxDigits) :
    readInt isNumeralBlank CodePoint.decimalValue? t
      = .ok (if negative then -(n : Int) else n) := by
  obtain ⟨ds, hread, hdigits, hvalue⟩ := groupedDigits?_ofNat n
  have hshort : ¬ ds.length > maxDigits := by omega
  unfold readInt
  rw [stripBy_eq_self hblank, hsigned]
  dsimp only
  rw [hread]
  dsimp only
  rw [if_neg hshort, hvalue]

/-- A number that has few enough digits to be written is read back. -/
theorem readInt_ofInt {i : Int} (h : isWritable i = true) :
    readInt isNumeralBlank CodePoint.decimalValue? (ofInt i) = .ok i := by
  have hlength : (ofNat i.natAbs).length ≤ maxDigits := of_decide_eq_true h
  have hblank : ∀ c ∈ ofInt i, isNumeralBlank c = false := by
    intro c hc
    rcases eq_minus_or_digit_of_mem_ofInt hc with rfl | ⟨d, hd, rfl⟩
    · decide
    · exact isNumeralBlank_of_isDigit hd
  cases i with
  | ofNat n => exact readInt_of_signed hblank (signed_ofNat n) hlength
  | negSucc n => exact readInt_of_signed hblank rfl hlength

end IssuerGate.Text
