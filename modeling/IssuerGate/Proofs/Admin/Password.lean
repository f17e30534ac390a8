import IssuerGate.Admin.Password
import IssuerGate.Proofs.Digest.Pbkdf2
import IssuerGate.Text.Base64.RoundTrip
import IssuerGate.Text.Numeral.RoundTrip

/-!
# IssuerGate — kept forms of passwords

A kept form comes from the settings, so it can be any text at all, and a password is tried against
it in five steps of which each can fail. The readers of its fields are generous: many texts spell
one form.

* **`Spells`** — a text has four fields, and these denote the parts of a form.
* **`Form.read_eq_ok_iff`** — reading finds the form that a text spells and fails where there is
  none.
* **`isCaught_iff`** — a trial catches the kinds of faults that it can meet and no others.
* **`exists_attempt`** — so each trial has an answer, and it is yes just for the passwords that
  derive the key of the form.
* **`exists_hash`** — the form that is written for a password is read back, and the passwords that
  pass are those that derive the same key.
-/

namespace IssuerGate

/-! ## Fields between separators -/

namespace Text

variable {sep : CodePoint} {a b t : Text}

/-- A text is cut at the first separator. -/
theorem cut?_eq_some_iff : cut? sep t = some (a, b) ↔ t = a ++ sep :: b ∧ sep ∉ a := by
  refine ⟨fun h => ?_, fun ⟨ht, ha⟩ => ht ▸ cut?_append ha b⟩
  induction t generalizing a with
  | nil => cases h
  | cons c t ih =>
    rw [cut?] at h
    -- cut here, or further on and not here
    by_cases hc : c = sep
    · rw [if_pos hc] at h
      cases h
      exact ⟨by rw [hc, List.nil_append], List.not_mem_nil⟩
    · rw [if_neg hc] at h
      obtain ⟨⟨before, after⟩, hcut, hparts⟩ := Option.map_eq_some_iff.mp h
      cases hparts
      obtain ⟨ht, hbefore⟩ := ih hcut
      refine ⟨by rw [ht, List.cons_append], fun hmem => ?_⟩
      rcases List.mem_cons.mp hmem with hsame | htail
      · exact hc hsame.symm
      · exact hbefore htail

/-- Cuts give as many pieces as there can be if and only if the text joins these pieces and none but
the last has a separator. -/
theorem splitAtMost_eq_iff {n : Nat} {pieces : List Text} (h : pieces.length = n + 1) :
    splitAtMost sep n t = pieces ↔ t = join [sep] pieces ∧ ∀ p ∈ pieces.dropLast, sep ∉ p := by
  induction n generalizing t pieces with
  | zero =>
    obtain ⟨p, rfl⟩ := List.length_eq_one_iff.mp h
    simp [splitAtMost, join]
  | succ n ih =>
    obtain _ | ⟨p, _ | ⟨q, rest⟩⟩ := pieces
    · cases h
    · cases h
    · have hrest : (q :: rest).length = n + 1 := by simpa using h
      have hjoin : join [sep] (p :: q :: rest) = p ++ sep :: join [sep] (q :: rest) := by
        simp [join]
      rw [hjoin, List.dropLast_cons_of_ne_nil (List.cons_ne_nil q rest), List.forall_mem_cons,
        splitAtMost]
      -- the first cut gives the first piece, and the other pieces come from what follows it
      cases hcut : cut? sep t with
      | none =>
        have hnone := cut?_eq_none_iff.mp hcut
        constructor
        · intro hone
          cases hone
        · rintro ⟨ht, -⟩
          rw [ht] at hnone
          exact absurd (List.mem_append_right _ List.mem_cons_self) hnone
      | some parts =>
        obtain ⟨before, after⟩ := parts
        obtain ⟨ht, hbefore⟩ := cut?_eq_some_iff.mp hcut
        dsimp only
        rw [List.cons.injEq, ih hrest]
        constructor
        · rintro ⟨rfl, rfl, hfree⟩
          exact ⟨ht, hbefore, hfree⟩
        · rintro ⟨hjoined, hp, hfree⟩
          have hagain : cut? sep t = some (p, join [sep] (q :: rest)) :=
            cut?_eq_some_iff.mpr ⟨hjoined, hp⟩
          rw [hcut] at hagain
          cases hagain
          exact ⟨rfl, rfl, hfree⟩

theorem toInt?_eq_some_iff {i : Int} :
    toInt? t = some i ↔ readInt isNumeralBlank CodePoint.decimalValue? t = .ok i := by
  unfold toInt?
  cases readInt isNumeralBlank CodePoint.decimalValue? t with
  | error f => exact ⟨fun h => (by cases h), fun h => (by cases h)⟩
  | ok j => exact ⟨fun h => congrArg _ (Option.some.inj h), fun h => congrArg _ (Except.ok.inj h)⟩

end Text

namespace Password

variable {password encoded : Text} {form : Form}

/-! ## Reading a form -/

/-- The text has four fields with a dollar sign between neighbours, of which the last alone may hold
further ones: the name, a whole number, and two texts in Base64. -/
def Spells (encoded : Text) (form : Form) : Prop :=
  ∃ rounds salt key : Text,
    encoded = Text.join [dollar] [form.name, rounds, salt, key]
      ∧ dollar ∉ form.name ∧ dollar ∉ rounds ∧ dollar ∉ salt
      ∧ Text.toInt? rounds = some form.rounds ∧ Base64.decode? salt = some form.salt
      ∧ Base64.decode? key = some form.key

/-- **Reading finds the form that a text spells.** -/
theorem Form.read_eq_ok_iff : Form.read encoded = .ok form ↔ Spells encoded form := by
  constructor
  · intro h
    unfold Form.read at h
    split at h
    · next name rounds salt key hsplit =>
      obtain ⟨hjoin, hfree⟩ := (Text.splitAtMost_eq_iff rfl).mp hsplit
      -- reading goes on to the next field only where this one denotes something
      cases hrounds : Text.readInt Text.isNumeralBlank CodePoint.decimalValue? rounds with
      | error f =>
        rw [hrounds] at h
        cases h
      | ok n =>
        cases hsalt : Base64.decode? salt with
        | none =>
          rw [hrounds, hsalt] at h
          cases h
        | some s =>
          cases hkey : Base64.decode? key with
          | none =>
            rw [hrounds, hsalt, hkey] at h
            cases h
          | some k =>
            rw [hrounds, hsalt, hkey] at h
            cases h
            exact ⟨rounds, salt, key, hjoin, hfree name (by simp), hfree rounds (by simp),
              hfree salt (by simp), Text.toInt?_eq_some_iff.mpr hrounds, hsalt, hkey⟩
    · cases h
  · rintro ⟨rounds, salt, key, hjoin, hname, hrounds, hsalt, hn, hs, hk⟩
    have hsplit : encoded.splitAtMost dollar 3 = [form.name, rounds, salt, key] := by
      refine (Text.splitAtMost_eq_iff rfl).mpr ⟨hjoin, ?_⟩
      simp [hname, hrounds, hsalt]
    unfold Form.read
    rw [hsplit]
    dsimp only
    rw [Text.toInt?_eq_some_iff.mp hn, hs, hk]
    rfl

/-! ## Trying a password -/

/-- Rounds are in range iff there is one at least and they fit a signed word of four bytes. -/
theorem checkRounds_eq_ok_iff {rounds : Int} {n : Nat} :
    checkRounds rounds = .ok n ↔ 1 ≤ rounds ∧ rounds ≤ maxRounds ∧ n = rounds.toNat := by
  have hword : maxRounds < Word.bound := by decide
  unfold checkRounds Word.fits
  simp only [Bool.not_eq_true', Bool.and_eq_false_iff, decide_eq_false_iff_not]
  -- out of a machine word, below one, above the greatest, or in range
  split
  · next hout =>
    refine ⟨fun h => (by cases h), fun ⟨hlo, hhi, _⟩ => ?_⟩
    have hbound : 0 < Word.bound := by decide
    omega
  · split
    · exact ⟨fun h => (by cases h), fun ⟨hlo, _⟩ => by omega⟩
    · split
      · exact ⟨fun h => (by cases h), fun ⟨_, hhi, _⟩ => by omega⟩
      · exact ⟨fun h => ⟨by omega, by omega, (Except.ok.inj h).symm⟩, fun ⟨_, _, hn⟩ => by rw [hn]⟩

/-- **A password has a derived key if an encoding carries it and the number of rounds is in range.** -/
theorem derive_eq_ok_iff {salt key : Bytes} {rounds : Int} :
    derive password salt rounds = .ok key
      ↔ password.isEncodable = true ∧ 1 ≤ rounds ∧ rounds ≤ maxRounds
        ∧ Pbkdf2.key (Utf8.encode password) salt rounds.toNat = key := by
  unfold derive
  -- the password is encoded before the rounds are looked at
  cases hbytes : Utf8.encodeStrict password with
  | error f =>
    have hencodable : password.isEncodable = false :=
      Utf8.exists_encodeStrict_error_iff.mp ⟨f, hbytes⟩
    refine ⟨fun h => (by cases h), fun h => ?_⟩
    rw [hencodable] at h
    cases h.1
  | ok bs =>
    obtain ⟨hencodable, rfl⟩ := Utf8.encodeStrict_eq_ok_iff.mp hbytes
    cases hrounds : checkRounds rounds with
    | error f =>
      refine ⟨fun h => (by cases h), fun ⟨_, hlo, hhi, _⟩ => ?_⟩
      rw [checkRounds_eq_ok_iff.mpr ⟨hlo, hhi, rfl⟩] at hrounds
      cases hrounds
    | ok n =>
      obtain ⟨hlo, hhi, rfl⟩ := checkRounds_eq_ok_iff.mp hrounds
      rw [← Pbkdf2.derive_eq_key]
      exact ⟨fun h => ⟨hencodable, hlo, hhi, Except.ok.inj h⟩, fun h => congrArg _ h.2.2.2⟩

/-- A password that no encoding carries fails for that, whatever the number of rounds. -/
theorem derive_of_unencodable (h : password.isEncodable = false) (salt : Bytes) (rounds : Int) :
    ∃ f, derive password salt rounds = .error (.unencodable f) := by
  obtain ⟨f, hf⟩ := Utf8.exists_encodeStrict_error_iff.mpr h
  refine ⟨f, ?_⟩
  unfold derive
  rw [hf]
  rfl

/-- The password can be encoded and derives the key of the form, which is one of the only scheme and
of a number of rounds in range. -/
def Form.Accepts (form : Form) (password : Text) : Prop :=
  form.name = scheme ∧ password.isEncodable = true ∧ 1 ≤ form.rounds ∧ form.rounds ≤ maxRounds
    ∧ Pbkdf2.key (Utf8.encode password) form.salt form.rounds.toNat = form.key

/-- A form says yes to the passwords that it accepts. -/
theorem Form.derives_eq_ok_true_iff :
    form.derives password = .ok true ↔ form.Accepts password := by
  unfold Form.derives Form.Accepts
  rw [← derive_eq_ok_iff]
  split
  · next hname => exact ⟨fun h => (by cases h), fun ⟨hsame, _⟩ => absurd hsame hname⟩
  · next hname =>
    rw [and_iff_right (not_not.mp hname)]
    cases derive password form.salt form.rounds with
    | error f => exact ⟨fun h => (by cases h), fun h => (by cases h)⟩
    | ok key =>
      show Except.ok (key == form.key) = Except.ok true ↔ _
      rw [Except.ok.injEq, Except.ok.injEq, beq_iff_eq]

/-- A text lets a password in iff it spells a form that accepts it. -/
theorem examine_eq_ok_true_iff :
    examine password encoded = .ok true ↔ ∃ form, Spells encoded form ∧ form.Accepts password := by
  unfold examine
  -- what is read is the only form that the text spells
  cases hread : Form.read encoded with
  | error f =>
    refine ⟨fun h => (by cases h), fun ⟨form, hspells, _⟩ => ?_⟩
    rw [Form.read_eq_ok_iff.mpr hspells] at hread
    cases hread
  | ok form =>
    refine ⟨fun h => ⟨form, Form.read_eq_ok_iff.mp hread, Form.derives_eq_ok_true_iff.mp h⟩, ?_⟩
    rintro ⟨other, hspells, haccepts⟩
    rw [Form.read_eq_ok_iff.mpr hspells] at hread
    cases hread
    exact Form.derives_eq_ok_true_iff.mpr haccepts

/-- Each fault of a trial is of a kind that is caught. -/
theorem Fault.isCaught_kind (f : Fault) : f.kind.isCaught = true := by
  cases f with
  | fields | numeral f | salt | key | unencodable f => rfl
  | rounds f => cases f <;> rfl

/-- **What is caught is what can be met.** There are trials with faults of each caught kind, and none
with a fault of another kind. -/
theorem isCaught_iff {kind : FaultKind} :
    kind.isCaught = true
      ↔ ∃ password encoded f, examine password encoded = .error f ∧ f.kind = kind := by
  constructor
  · intro h
    -- no trial fails by a type, and that kind is not caught either
    cases kind with
    | value => exact ⟨[], [], .fields, rfl, rfl⟩
    | range =>
      have hmany : examine "pw" "pbkdf2_sha256$2147483648$$" = .error (.rounds .tooMany) := by
        decide +kernel
      exact ⟨_, _, _, hmany, rfl⟩
    | type => cases h
  · rintro ⟨password, encoded, f, -, rfl⟩
    exact f.isCaught_kind

/-- A trial always answers: what can be met is caught. -/
theorem attempt_eq_verify (password encoded : Text) :
    attempt password encoded = .ok (verify password encoded) := by
  have hanswer : ∃ accepted, attempt password encoded = .ok accepted := by
    unfold attempt
    cases examine password encoded with
    | ok accepted => exact ⟨accepted, rfl⟩
    | error f => exact ⟨false, if_pos f.isCaught_kind⟩
  obtain ⟨accepted, haccepted⟩ := hanswer
  unfold verify
  rw [haccepted]
  rfl

/-- A trial answers yes iff the text spells a form that accepts the password. -/
theorem verify_eq_true_iff :
    verify password encoded = true ↔ ∃ form, Spells encoded form ∧ form.Accepts password := by
  rw [← examine_eq_ok_true_iff]
  unfold verify attempt
  cases examine password encoded with
  | ok accepted => exact ⟨fun h => congrArg _ h, fun h => Except.ok.inj h⟩
  | error f =>
    refine ⟨fun h => ?_, fun h => (by cases h)⟩
    dsimp only at h
    rw [if_pos f.isCaught_kind] at h
    cases h

/-- **Every trial has an answer.** Whatever the password and the text, no fault gets through; and
the answer is yes if and only if the text spells a form that accepts the password. -/
theorem exists_attempt (password encoded : Text) :
    ∃ accepted, attempt password encoded = .ok accepted ∧ verify password encoded = accepted
      ∧ (accepted = true ↔ ∃ form, Spells encoded form ∧ form.Accepts password) :=
  ⟨_, attempt_eq_verify password encoded, rfl, verify_eq_true_iff⟩

/-! ## Keeping a password -/

theorem dollar_not_mem_ofInt (i : Int) : dollar ∉ Text.ofInt i := by
  intro h
  rcases Text.eq_minus_or_digit_of_mem_ofInt h with hminus | ⟨d, hd, hdigit⟩
  · exact absurd hminus (by decide)
  · exact Text.ne_of_isDigit hd (by decide) hdigit.symm

theorem dollar_not_mem_encode (bs : Bytes) : dollar ∉ Base64.encode bs := by
  have hletter : ∀ n < 64, Base64.letter n ≠ dollar := by decide
  intro h
  rcases Base64.eq_letter_or_pad_of_mem_encode h with ⟨n, hn, hsame⟩ | hpad
  · exact hletter n hn hsame.symm
  · exact absurd hpad (by decide)

/-- What is written spells what was to be written. -/
theorem spells_encode {rounds : Int} (h : Text.isWritable rounds = true) (salt key : Bytes) :
    Spells (encode rounds salt key) ⟨scheme, rounds, salt, key⟩ := by
  have hscheme : dollar ∉ scheme := by decide
  have hrounds : Text.toInt? (Text.ofInt rounds) = some rounds :=
    Text.toInt?_eq_some_iff.mpr (Text.readInt_ofInt h)
  exact ⟨_, _, _, rfl, hscheme, dollar_not_mem_ofInt rounds, dollar_not_mem_encode salt, hrounds,
    Base64.decode?_encode salt, Base64.decode?_encode key⟩

/-- A number of rounds in range has few digits. -/
theorem isWritable_of_rounds {rounds : Int} (hlo : 1 ≤ rounds) (hhi : rounds ≤ maxRounds) :
    Text.isWritable rounds = true := by
  have hmax : maxRounds < 10000000000 := by decide
  have hten : rounds.natAbs < 10000000000 := by omega
  exact Text.isWritable_of_lt (by decide : 0 < 10) (by decide) hten

/-- A form that is written for a number of rounds in range accepts the passwords that derive its
key. -/
theorem verify_encode_iff {q : Text} {rounds : Int} (hlo : 1 ≤ rounds) (hhi : rounds ≤ maxRounds)
    (salt key : Bytes) :
    verify q (encode rounds salt key) = true
      ↔ q.isEncodable = true ∧ Pbkdf2.key (Utf8.encode q) salt rounds.toNat = key := by
  have hspells := spells_encode (isWritable_of_rounds hlo hhi) salt key
  rw [verify_eq_true_iff]
  constructor
  · rintro ⟨form, hother, -, hq, -, -, hderives⟩
    have hread := Form.read_eq_ok_iff.mpr hspells
    rw [Form.read_eq_ok_iff.mpr hother] at hread
    cases hread
    exact ⟨hq, hderives⟩
  · rintro ⟨hq, hderives⟩
    exact ⟨_, hspells, rfl, hq, hlo, hhi, hderives⟩

/-- A password has a kept form if it has a derived key. -/
theorem hash_eq_ok {p : Text} (hp : p.isEncodable = true) {rounds : Int} (hlo : 1 ≤ rounds)
    (hhi : rounds ≤ maxRounds) (salt : Bytes) :
    hash p salt rounds
      = .ok (encode rounds salt (Pbkdf2.key (Utf8.encode p) salt rounds.toNat)) := by
  unfold hash
  rw [derive_eq_ok_iff.mpr ⟨hp, hlo, hhi, rfl⟩]
  rfl

/-- **A kept password is tried against what was kept.** For a number of rounds in range there is a
kept form of each password that an encoding carries; it is read back as the rounds, the salt and the
key of the password; the passwords that pass are those that an encoding carries and that derive the
same key, and so the password itself passes. -/
theorem exists_hash {p : Text} (hp : p.isEncodable = true) (q : Text) (salt : Bytes) {rounds : Int}
    (hlo : 1 ≤ rounds) (hhi : rounds ≤ maxRounds) :
    let key := fun password : Text => Pbkdf2.key (Utf8.encode password) salt rounds.toNat
    ∃ kept, hash p salt rounds = .ok kept
      ∧ Form.read kept = .ok ⟨scheme, rounds, salt, key p⟩
      ∧ (verify q kept = true ↔ q.isEncodable = true ∧ key q = key p)
      ∧ verify p kept = true := by
  intro key
  refine ⟨_, hash_eq_ok hp hlo hhi salt, ?_, verify_encode_iff hlo hhi salt (key p), ?_⟩
  · exact Form.read_eq_ok_iff.mpr (spells_encode (isWritable_of_rounds hlo hhi) salt (key p))
  · exact (verify_encode_iff hlo hhi salt (key p)).mpr ⟨hp, rfl⟩

/-- One password passes and two do not, after two rounds and with a salt of four bytes, of which the
last fills no group of letters: another one, and one that no encoding carries. -/
theorem exists_hash_of_salted :
    ∃ kept, hash "pw" [0xFB, 0xEF, 0xBE, 0x24] 2 = .ok kept
      ∧ verify "pw" kept = true ∧ verify "pW" kept = false
      ∧ verify [.surrogate 0] kept = false := by
  have hlo : (1 : Int) ≤ 2 := by decide
  have hhi : (2 : Int) ≤ maxRounds := by decide
  have hp : Text.isEncodable "pw" = true := by decide
  obtain ⟨kept, hkept, -, hother, hown⟩ :=
    exists_hash hp "pW" [0xFB, 0xEF, 0xBE, 0x24] hlo hhi
  obtain ⟨same, hsame, -, hstray, -⟩ :=
    exists_hash hp [.surrogate 0] [0xFB, 0xEF, 0xBE, 0x24] hlo hhi
  obtain rfl : kept = same := Except.ok.inj (hkept.symm.trans hsame)
  -- a letter in the other case makes another key
  have hne : Pbkdf2.key (Utf8.encode "pW") [0xFB, 0xEF, 0xBE, 0x24] 2
      ≠ Pbkdf2.key (Utf8.encode "pw") [0xFB, 0xEF, 0xBE, 0x24] 2 := by decide +kernel
  refine ⟨kept, hkept, hown, ?_, ?_⟩
  · exact Bool.eq_false_iff.mpr fun h => hne (hother.mp h).2
  · exact Bool.eq_false_iff.mpr fun h => absurd (hstray.mp h).1 (by decide)

end Password

end IssuerGate
