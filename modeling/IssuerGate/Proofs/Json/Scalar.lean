import IssuerGate.Json.Reader
import IssuerGate.Json.Writer
import Mathlib.Tactic.FinCases
import Mathlib.Tactic.SplitIfs

/-!
# IssuerGate — strings and whole numbers read back

The parts of a written value that hold no other values:

* **`readString_write`** — a string is read back from its escapes, whatever code points it holds,
  surrogates that stand alone included, and whatever follows its closing mark.
* **`readScalar_ofInt`** — a whole number is read back from its digits, if there are no more of them
  than are read and a delimiter follows.
-/

namespace IssuerGate.Json

/-! ## Strings -/

/-- A backslash and a letter are read as the code point that they stand for. -/
theorem readString_escape {e p : CodePoint} (he : e ≠ .scalar 'u') (hp : escaped? e = some p)
    (t : Text) : readString (.scalar '\\' :: e :: t) = push p (readString t) := by
  rw [readString.eq_def]
  simp [he, hp]

/-- An escaped number below the surrogates stands alone, whatever follows it. -/
theorem readString_unit {a b c d : CodePoint} {n : Nat} (h : unit? a b c d = some n)
    (hn : n < 0xD800) (t : Text) :
    readString (.scalar '\\' :: .scalar 'u' :: a :: b :: c :: d :: t) = pushUnit n (readString t)
      := by
  have hjoined (low : Nat) : joined? n low = none := by
    unfold joined?
    rw [if_neg (by omega)]
  rw [readString.eq_def]
  simp only [h]
  -- six code points behind the escape may be an escaped low surrogate, which would join a high one
  split
  · next hmark => exact absurd hmark (by decide)
  · rw [if_pos trivial, if_pos trivial]
    split
    · split
      · split
        · next hlow =>
          obtain ⟨low, -, hlow⟩ := Option.bind_eq_some_iff.mp hlow
          rw [hjoined] at hlow
          cases hlow
        · rfl
      · rfl
    · rfl

theorem readString_plain {c : CodePoint} (hmark : c ≠ .scalar '"') (hescape : c ≠ .scalar '\\')
    (hval : ¬ c.val < 0x20) (t : Text) : readString (c :: t) = push c (readString t) := by
  rw [readString.eq_def]
  simp [hmark, hescape, hval]

/-- Four hexadecimal digits denote the number that they were written for. -/
theorem unit?_hexDigits {n : Nat} (hn : n < 0x10000) :
    ∃ a b c d, Text.hexDigits 4 n = [a, b, c, d] ∧ unit? a b c d = some n := by
  refine ⟨Text.hexDigit (n / 16 / 16 / 16 % 16), Text.hexDigit (n / 16 / 16 % 16),
    Text.hexDigit (n / 16 % 16), Text.hexDigit (n % 16), rfl, ?_⟩
  have hval : ((n / 16 / 16 / 16 % 16 * 16 + n / 16 / 16 % 16) * 16 + n / 16 % 16) * 16 + n % 16
      = n := by omega
  unfold unit?
  rw [Hex.digit?_hexDigit _ (Nat.mod_lt _ (by decide)),
    Hex.digit?_hexDigit _ (Nat.mod_lt _ (by decide)),
    Hex.digit?_hexDigit _ (Nat.mod_lt _ (by decide)),
    Hex.digit?_hexDigit _ (Nat.mod_lt _ (by decide))]
  simp only [Option.bind_eq_bind, Option.bind_some, Option.pure_def, hval]

/-- Printable within ASCII. -/
def isPrintableAscii (c : CodePoint) : Bool := 0x20 ≤ c.val && c.val < 0x80

/-- How a code point is written: behind a backslash as a letter or as four digits, or as it is. -/
theorem writePoint_cases (c : CodePoint) :
    (c.val < 0x80 ∧ ∃ e, e ≠ .scalar 'u' ∧ escaped? e = some c ∧ isPrintableAscii e = true
        ∧ writePoint c = [.scalar '\\', e])
      ∨ (c.val < 0x20 ∧ writePoint c = .scalar '\\' :: .scalar 'u' :: Text.hexDigits 4 c.val)
      ∨ (c ≠ .scalar '"' ∧ c ≠ .scalar '\\' ∧ ¬ c.val < 0x20 ∧ writePoint c = [c]) := by
  unfold writePoint
  split_ifs with h1 h2 h3 h4 h5 h6 h7 hval
  · exact Or.inl ⟨by rw [h1]; decide, .scalar '"', by decide, by rw [h1]; rfl, by decide, rfl⟩
  · exact Or.inl ⟨by rw [h2]; decide, .scalar '\\', by decide, by rw [h2]; rfl, by decide, rfl⟩
  · exact Or.inl ⟨by rw [h3]; decide, .scalar 'n', by decide, by rw [h3]; rfl, by decide, rfl⟩
  · exact Or.inl ⟨by rw [h4]; decide, .scalar 'r', by decide, by rw [h4]; rfl, by decide, rfl⟩
  · exact Or.inl ⟨by rw [h5]; decide, .scalar 't', by decide, by rw [h5]; rfl, by decide, rfl⟩
  · exact Or.inl ⟨by rw [h6]; decide, .scalar 'f', by decide, by rw [h6]; rfl, by decide, rfl⟩
  · exact Or.inl ⟨by rw [h7]; decide, .scalar 'b', by decide, by rw [h7]; rfl, by decide, rfl⟩
  · exact Or.inr (Or.inl ⟨hval, rfl⟩)
  · exact Or.inr (Or.inr ⟨h1, h2, hval, rfl⟩)

/-- A written code point is read as one, in front of whatever is read behind it. -/
theorem readString_writePoint (c : CodePoint) (t : Text) :
    readString (writePoint c ++ t) = push c (readString t) := by
  rcases writePoint_cases c with
    ⟨-, e, he, hp, -, hw⟩ | ⟨hval, hw⟩ | ⟨hmark, hescape, hval, hw⟩
  · rw [hw]
    exact readString_escape he hp t
  · obtain ⟨h1, h2, h3, h4, hdigits, hunit⟩ := unit?_hexDigits (n := c.val) (by omega)
    rw [hw, hdigits]
    refine (readString_unit hunit (by omega) t).trans ?_
    unfold pushUnit
    rw [CodePoint.ofNat?_val]
  · rw [hw]
    exact readString_plain hmark hescape hval t

/-- **A string is read back.** -/
theorem readString_write (t rest : Text) :
    readString (t.flatMap writePoint ++ .scalar '"' :: rest) = .ok (t, rest) := by
  induction t with
  | nil =>
    show readString (.scalar '"' :: rest) = _
    rw [readString.eq_def]
    rfl
  | cons c t ih =>
    rw [List.flatMap_cons, List.append_assoc, readString_writePoint, ih]
    rfl

/-! ## Whole numbers -/

theorem asciiDigit?_of_isDigit {c : Char} (h : c.isDigit = true) :
    (CodePoint.scalar c).asciiDigit? = some (c.toNat - 48) := by
  have hrange : 48 ≤ c.toNat ∧ c.toNat ≤ 57 := by
    simpa [Char.isDigit, UInt32.le_iff_toNat_le] using h
  exact if_pos hrange

theorem isDigit_of_mem_ofNat {n : Nat} {c : CodePoint} (h : c ∈ Text.ofNat n) :
    isDigit c = true := by
  obtain ⟨d, hd, rfl⟩ := List.mem_map.mp h
  unfold isDigit
  rw [asciiDigit?_of_isDigit (Nat.isDigit_of_mem_toDigits (by decide) (by decide) hd)]
  rfl

theorem filterMap_asciiDigit? {cs : List Char} (h : ∀ c ∈ cs, c.isDigit = true) :
    (Text.ofChars cs).filterMap CodePoint.asciiDigit? = cs.map fun c => c.toNat - 48 := by
  induction cs with
  | nil => rfl
  | cons c cs ih =>
    have hc := asciiDigit?_of_isDigit (h c List.mem_cons_self)
    have hcs := ih fun d hd => h d (List.mem_cons_of_mem c hd)
    unfold Text.ofChars at hcs ⊢
    rw [List.map_cons, List.filterMap_cons_some hc, hcs, List.map_cons]

/-- The digits of a number add up to the number. -/
theorem digitsValue_ofNat (n : Nat) : digitsValue (Text.ofNat n) = n := by
  unfold digitsValue Text.valueOfDigits Text.ofNat
  rw [filterMap_asciiDigit? fun c hc => Nat.isDigit_of_mem_toDigits (by decide) (by decide) hc,
    List.foldl_map]
  exact Nat.ofDigitChars_ten_toDigits

/-- A number other than zero is not written with a zero in front. -/
theorem toDigits_eq_cons {n : Nat} (hn : n ≠ 0) :
    ∃ d ds, Nat.toDigits 10 n = d :: ds ∧ d ≠ '0' := by
  induction n using Nat.strongRecOn with
  | _ n ih =>
    -- the first digit of a longer number is that of a tenth of it
    by_cases hlt : n < 10
    · refine ⟨Nat.digitChar n, [], Nat.toDigits_of_lt_base hlt, ?_⟩
      have hall : ∀ m < 10, m ≠ 0 → Nat.digitChar m ≠ '0' := by decide
      exact hall n hlt hn
    · obtain ⟨d, ds, hds, hd⟩ := ih (n / 10) (by omega) (by omega)
      refine ⟨d, ds ++ [Nat.digitChar (n % 10)], ?_, hd⟩
      rw [Nat.toDigits_of_base_le (by decide) (by omega), hds]
      rfl

/-- What may follow a value: nothing, or a comma or a closing bracket. -/
def Delimited (rest : Text) : Prop :=
  ∀ c ∈ rest.head?, c = .scalar ',' ∨ c = .scalar ']' ∨ c = .scalar '\x7d'

theorem delimited_nil : Delimited [] := by
  intro c hc
  cases hc

theorem delimited_comma (t : Text) : Delimited (.scalar ',' :: t) := by
  intro c hc
  exact Or.inl (Option.some.inj hc).symm

theorem delimited_bracket (t : Text) : Delimited (.scalar ']' :: t) := by
  intro c hc
  exact Or.inr (Or.inl (Option.some.inj hc).symm)

theorem delimited_brace (t : Text) : Delimited (.scalar '\x7d' :: t) := by
  intro c hc
  exact Or.inr (Or.inr (Option.some.inj hc).symm)

/-- A delimiter does not go on with a number. -/
theorem Delimited.ends {rest : Text} (h : Delimited rest) :
    spanDigits rest = ([], rest) ∧ spanFraction rest = (none, rest)
      ∧ spanExponent rest = (none, rest) := by
  cases rest with
  | nil => exact ⟨rfl, rfl, rfl⟩
  | cons c rest =>
    have hstops : isDigit c = false ∧ c ≠ .scalar '.' ∧ c ≠ .scalar 'e' ∧ c ≠ .scalar 'E' := by
      rcases h c rfl with rfl | rfl | rfl <;> decide
    obtain ⟨hdigit, hpoint, hsmall, hlarge⟩ := hstops
    refine ⟨?_, ?_, ?_⟩
    · simp [spanDigits, hdigit]
    · simp [spanFraction, hpoint]
    · simp [spanExponent, hsmall, hlarge]

/-- Digits are read up to the delimiter. -/
theorem spanDigits_append {ds : Text} (hds : ∀ c ∈ ds, isDigit c = true) {rest : Text}
    (h : Delimited rest) : spanDigits (ds ++ rest) = (ds, rest) := by
  have hrest := h.ends.1
  unfold spanDigits at hrest ⊢
  obtain ⟨htake, hdrop⟩ := Prod.mk.inj hrest
  rw [List.takeWhile_append_of_pos hds, List.dropWhile_append_of_pos hds, htake, hdrop,
    List.append_nil]

/-- The whole part that is read off a written number is all of it. -/
theorem spanWhole_ofNat (n : Nat) {rest : Text} (h : Delimited rest) :
    spanWhole (Text.ofNat n ++ rest) = (Text.ofNat n, rest) := by
  by_cases hn : n = 0
  · rw [hn]
    rfl
  -- a zero in front would be read alone, and what follows it left over
  · obtain ⟨d, ds, hds, hd⟩ := toDigits_eq_cons hn
    have hofNat : Text.ofNat n = .scalar d :: Text.ofChars ds := by
      unfold Text.ofNat
      rw [hds]
      rfl
    have hspan : spanDigits (Text.ofNat n ++ rest) = (Text.ofNat n, rest) :=
      spanDigits_append (fun c hc => isDigit_of_mem_ofNat hc) h
    rw [hofNat] at hspan ⊢
    unfold spanWhole
    rw [List.cons_append] at hspan ⊢
    dsimp only
    rw [if_neg (fun hzero => hd (CodePoint.scalar.inj hzero)), hspan]

theorem ofNat_ne_nil (n : Nat) : Text.ofNat n ≠ [] := by
  unfold Text.ofNat Text.ofChars
  rw [ne_eq, List.map_eq_nil_iff]
  exact Nat.toDigits_ne_nil

/-- A number that has no more digits than are read is read back, with the sign that was in front. -/
theorem readNumber_ofNat (negative : Bool) {n : Nat}
    (hlength : (Text.ofNat n).length ≤ Text.maxDigits) {rest : Text} (h : Delimited rest) :
    readNumber negative (Text.ofNat n ++ rest)
      = .ok (.int (if negative then -n else n), rest) := by
  obtain ⟨-, hfraction, hexponent⟩ := h.ends
  unfold readNumber
  rw [spanWhole_ofNat n h]
  dsimp only
  -- no point and no exponent follow, so the number is whole
  rw [if_neg (ofNat_ne_nil n), hfraction]
  dsimp only
  rw [hexponent]
  dsimp only
  rw [Option.isNone_none, Option.isNone_none, Bool.and_self, if_pos rfl, if_neg (by omega),
    digitsValue_ofNat]

theorem after?_cons_of_ne {w c : CodePoint} (h : c ≠ w) (ws t : Text) :
    after? (w :: ws) (c :: t) = none := if_neg h

/-- No word starts with a digit, nor with a minus sign and a digit. -/
theorem readWord?_of_isDigit {c : CodePoint} (h : isDigit c = true) (t : Text) :
    readWord? (c :: t) = none ∧ readWord? (.scalar '-' :: c :: t) = none := by
  have hne : c ≠ .scalar 'n' ∧ c ≠ .scalar 't' ∧ c ≠ .scalar 'f' ∧ c ≠ .scalar 'N'
      ∧ c ≠ .scalar 'I' ∧ c ≠ .scalar '-' := by
    refine ⟨?_, ?_, ?_, ?_, ?_, ?_⟩ <;> rintro rfl <;> exact absurd h (by decide)
  obtain ⟨hn, ht, hf, hN, hI, hminus⟩ := hne
  unfold readWord?
  rw [List.findSome?_eq_none_iff, List.findSome?_eq_none_iff]
  constructor
  -- six words are tried, and none of them starts with a digit
  · intro w hw
    rw [Option.map_eq_none_iff]
    fin_cases hw
    · exact after?_cons_of_ne hn _ _
    · exact after?_cons_of_ne ht _ _
    · exact after?_cons_of_ne hf _ _
    · exact after?_cons_of_ne hN _ _
    · exact after?_cons_of_ne hI _ _
    · exact after?_cons_of_ne hminus _ _
  -- only minus infinity starts with the sign, and its next letter is no digit
  · intro w hw
    rw [Option.map_eq_none_iff]
    fin_cases hw
    iterate 5 exact after?_cons_of_ne (by decide) _ _
    exact after?_cons_of_ne hI _ _

/-- **A whole number is read back.** -/
theorem readScalar_ofInt {i : Int} (hlength : (Text.ofNat i.natAbs).length ≤ Text.maxDigits)
    {rest : Text} (h : Delimited rest) : readScalar (Text.ofInt i ++ rest) = .ok (.int i, rest) := by
  obtain ⟨c, ds, hds⟩ := List.exists_cons_of_ne_nil (ofNat_ne_nil i.natAbs)
  have hc : isDigit c = true := isDigit_of_mem_ofNat (hds ▸ List.mem_cons_self)
  have hminus : c ≠ .scalar '-' := by
    rintro rfl
    exact absurd hc (by decide)
  obtain ⟨hword, hminusWord⟩ := readWord?_of_isDigit hc (ds ++ rest)
  -- without a sign the digits are read at once, with one they are read behind it
  cases i with
  | ofNat n =>
    have hread := readNumber_ofNat false hlength h
    rw [hds, List.cons_append] at hread
    show readScalar (Text.ofNat n ++ rest) = _
    change Text.ofNat n = c :: ds at hds
    rw [hds, List.cons_append]
    unfold readScalar
    rw [hword]
    dsimp only
    rw [if_neg hminus, hread]
    rfl
  | negSucc n =>
    have hread := readNumber_ofNat true hlength h
    rw [hds, List.cons_append] at hread
    show readScalar (.scalar '-' :: (Text.ofNat (n + 1) ++ rest)) = _
    change Text.ofNat (n + 1) = c :: ds at hds
    rw [hds, List.cons_append]
    unfold readScalar
    rw [hminusWord]
    dsimp only
    rw [if_pos rfl, hread]
    rfl

end IssuerGate.Json
