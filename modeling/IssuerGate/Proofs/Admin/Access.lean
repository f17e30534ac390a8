import IssuerGate.Admin.Access
import IssuerGate.Proofs.Admin.Password

/-!
# IssuerGate — who is let in as admin

The admin is known by a name and by a kept hash, or else by a plain password, which is hashed afresh
for each request. Names are compared as they are, and passwords by the keys that they derive.

* **`Denial.Unauthorized`** — the denial is answered with status 401.
* **`keptHash_eq_error_iff`** — what has no kept form: a plain password that no encoding carries.
* **`principal_of_other`**, **`principal_eq_ite`**, **`principal_of_unkept`** — names that can be
  compared decide first, then the kept form and the password.
* **`principal_or_denial`** — everyone is let in or answered 401, whatever the kept hash, but for two
  ways out: a name beyond ASCII on either side, `not_always_answered`, and an account whose password
  has no kept form.
* **`principal_of_plain`** — the passwords that pass for a plain password are those that derive its
  key. More than one does: a password passes with zeros behind it, `not_only_the_configured`.
-/

namespace IssuerGate.Admin

/-- The denial is answered with status 401. -/
def Denial.Unauthorized (d : Denial) : Prop :=
  ∃ refusal, d.refusal = .ok refusal ∧ refusal.status = 401

theorem unauthorized_required : Denial.required.Unauthorized := ⟨_, rfl, rfl⟩

theorem unauthorized_failed : Denial.failed.Unauthorized := ⟨_, rfl, rfl⟩

/-- A fault is not answered at all. -/
theorem not_unauthorized_fault (f : Fault) : ¬ (Denial.fault f).Unauthorized := by
  rintro ⟨refusal, hrefusal, -⟩
  cases hrefusal

theorem given_eq_some_iff {t : Option Text} {s : Text} :
    given t = some s ↔ t = some s ∧ s ≠ [] := by
  unfold given
  rw [Option.filter_eq_some_iff, decide_eq_true_eq]

namespace Account

variable {a : Account} {c : Credentials} {shown : Option Credentials} {name plain password : Text}

/-! ## The password -/

/-- The key under which a plain password is kept. -/
def plainKey (password : Text) : Bytes :=
  Pbkdf2.key (Utf8.encode password) plainSalt plainRounds

/-- The account has a plain password that counts, and no encoding carries it. -/
def Unkept (a : Account) : Prop :=
  given a.passwordHash = none
    ∧ ∃ plain, given a.passwordPlain = some plain ∧ plain.isEncodable = false

theorem hash_plain (h : plain.isEncodable = true) :
    Password.hash plain plainSalt plainRounds
      = .ok (Password.encode plainRounds plainSalt (plainKey plain)) :=
  Password.hash_eq_ok h (by decide) (by decide) plainSalt

/-- An account with a plain password that can be encoded keeps its hash. -/
theorem keptHash_of_plain (hhash : given a.passwordHash = none)
    (hplain : given a.passwordPlain = some plain) (h : plain.isEncodable = true) :
    a.keptHash = .ok (some (Password.encode plainRounds plainSalt (plainKey plain))) := by
  unfold keptHash
  rw [hhash, hplain]
  dsimp only
  rw [hash_plain h]
  rfl

/-- An account whose plain password cannot be encoded keeps nothing: making its hash fails. -/
theorem keptHash_of_unkept (h : a.Unkept) : ∃ f, a.keptHash = .error (.unencodable f) := by
  obtain ⟨hhash, plain, hplain, hencodable⟩ := h
  obtain ⟨f, hf⟩ := Password.derive_of_unencodable hencodable plainSalt plainRounds
  refine ⟨f, ?_⟩
  unfold keptHash
  rw [hhash, hplain]
  dsimp only
  unfold Password.hash
  rw [hf]
  rfl

/-- **What has no kept form is a plain password that no encoding carries**: a kept hash is taken as
it is, and the rounds and the salt of plain passwords are always the same. -/
theorem keptHash_eq_error_iff : (∃ f, a.keptHash = .error f) ↔ a.Unkept := by
  refine ⟨fun ⟨f, hf⟩ => ?_, fun h => (keptHash_of_unkept h).imp' _ fun _ => id⟩
  -- a hash that is given is kept as it is; only a plain password is encoded
  cases hhash : given a.passwordHash with
  | some kept =>
    unfold keptHash at hf
    rw [hhash] at hf
    cases hf
  | none =>
    cases hplain : given a.passwordPlain with
    | none =>
      unfold keptHash at hf
      rw [hhash, hplain] at hf
      cases hf
    | some plain =>
      refine ⟨hhash, plain, hplain, ?_⟩
      by_contra hencodable
      rw [keptHash_of_plain hhash hplain (by simpa using hencodable)] at hf
      cases hf

/-- An account whose hash cannot be made accepts nobody, and fails at that. -/
theorem accepts_of_unkept (h : a.Unkept) (password : Text) :
    ∃ f, a.accepts password = .error (.unencodable f) := by
  obtain ⟨f, hf⟩ := keptHash_of_unkept h
  refine ⟨f, ?_⟩
  unfold accepts
  rw [hf]
  rfl

/-- Where the password of the account has a kept form or none is set, a password is accepted or it
is not. -/
theorem exists_accepts (h : ¬ a.Unkept) (password : Text) :
    ∃ accepted, a.accepts password = .ok accepted := by
  unfold accepts
  cases hkept : a.keptHash with
  | error f => exact absurd (keptHash_eq_error_iff.mp ⟨f, hkept⟩) h
  | ok kept => exact ⟨_, rfl⟩

/-- The password is accepted if its trial against the kept form says so. -/
theorem accepts_of_kept {kept : Text} (h : a.keptHash = .ok (some kept)) (password : Text) :
    a.accepts password = .ok (Password.verify password kept) := by
  unfold accepts
  rw [h]
  rfl

/-- A plain password accepts each password of the same derived key. -/
theorem accepts_of_plain_iff (hhash : given a.passwordHash = none)
    (hplain : given a.passwordPlain = some plain) (h : plain.isEncodable = true) :
    a.accepts password = .ok true
      ↔ password.isEncodable = true ∧ plainKey password = plainKey plain := by
  rw [accepts_of_kept (keptHash_of_plain hhash hplain h), Except.ok.injEq]
  exact Password.verify_encode_iff (by decide) (by decide) plainSalt (plainKey plain)

/-- Passwords with one key block are kept alike. -/
theorem plainKey_congr {p q : Text}
    (h : Hmac.preparedKey (Utf8.encode p) = Hmac.preparedKey (Utf8.encode q)) :
    plainKey p = plainKey q :=
  Pbkdf2.key_congr h plainSalt plainRounds

/-! ## The way in -/

/-- The name that is shown and the configured one, if both are there, can be compared. -/
def Comparable (a : Account) (shown : Option Credentials) : Prop :=
  ∀ c name, shown = some c → given a.username = some name →
    c.username.isAscii = true ∧ name.isAscii = true

/-- The name that is shown is the configured one. -/
def Named (a : Account) (shown : Option Credentials) : Prop :=
  ∃ c, shown = some c ∧ given a.username = some c.username

theorem principal_of_nobody (h : given a.username = none) (shown : Option Credentials) :
    a.principal shown = .error .required := by
  unfold principal authenticate
  rw [h]
  cases shown <;> rfl

/-- Names that cannot be compared are a fault. -/
theorem principal_of_not_comparable (h : ¬ Comparable a shown) :
    a.principal shown = .error (.fault .incomparable) := by
  simp only [Comparable, not_forall] at h
  obtain ⟨c, name, rfl, hname, hbeyond⟩ := h
  have hrefused : (c.username.isAscii && name.isAscii) = false := by
    rw [← Bool.not_eq_true, Bool.and_eq_true]
    exact hbeyond
  unfold principal authenticate
  rw [hname]
  dsimp only
  rw [hrefused]
  rfl

section Compared

variable (hname : given a.username = some name) (hshown : c.username.isAscii = true)
  (hascii : name.isAscii = true)

include hname hshown hascii

/-- Another name is enough to be denied: no password is looked at, and none has to be kept. -/
theorem principal_of_other (h : c.username ≠ name) : a.principal (some c) = .error .failed := by
  unfold principal authenticate
  rw [hname]
  dsimp only
  rw [hshown, hascii]
  simp [h, Except.map]

/-- The configured name alone lets nobody in where the password cannot be kept. -/
theorem principal_of_unkept (hsame : c.username = name) {f : Password.Fault}
    (h : a.accepts c.password = .error f) :
    a.principal (some c) = .error (.fault (.unkept f)) := by
  unfold principal authenticate
  rw [hname]
  dsimp only
  rw [hshown, hascii, h]
  simp [hsame, Except.map]

/-- Where the password can be kept, the names decide first, and the password after them. -/
theorem principal_eq_ite {accepted : Bool} (h : a.accepts c.password = .ok accepted) :
    a.principal (some c)
      = if c.username = name ∧ accepted = true then .ok (.admin name) else .error .failed := by
  by_cases hsame : c.username = name
  · unfold principal authenticate
    rw [hname]
    dsimp only
    rw [hshown, hascii, h]
    cases accepted with
    | true => simp [hsame, Except.map]
    | false => simp [hsame, Except.map]
  · rw [principal_of_other hname hshown hascii hsame, if_neg fun h => hsame h.1]

end Compared

/-- Someone who shows the configured name is not answered where the password cannot be kept. -/
theorem principal_of_named_unkept (hcomparable : Comparable a shown) (hnamed : Named a shown)
    (h : a.Unkept) : ∃ f, a.principal shown = .error (.fault (.unkept (.unencodable f))) := by
  obtain ⟨c, rfl, hname⟩ := hnamed
  obtain ⟨hshown, hascii⟩ := hcomparable c _ rfl hname
  obtain ⟨f, hf⟩ := accepts_of_unkept h c.password
  exact ⟨f, principal_of_unkept hname hshown hascii rfl hf⟩

/-- **Otherwise everyone is answered**: let in with the configured name and a password that is
accepted, or refused without the one or the other. -/
theorem principal_of_answered (hcomparable : Comparable a shown)
    (h : ¬ (Named a shown ∧ a.Unkept)) :
    (∃ c, shown = some c ∧ given a.username = some c.username ∧ a.accepts c.password = .ok true
        ∧ a.principal shown = .ok ⟨c.username, ["admin"]⟩)
      ∨ ((∀ c, shown = some c → given a.username = some c.username →
          a.accepts c.password = .ok false)
        ∧ ∃ d, a.principal shown = .error d ∧ d.Unauthorized) := by
  cases hname : given a.username with
  | none =>
    refine Or.inr ⟨fun c _ hsome => (by cases hsome), .required, ?_, unauthorized_required⟩
    exact principal_of_nobody hname shown
  | some name =>
    cases shown with
    | none =>
      refine Or.inr ⟨fun c hnone => (by cases hnone), .required, ?_, unauthorized_required⟩
      unfold principal authenticate
      rfl
    | some c =>
      obtain ⟨hshown, hascii⟩ := hcomparable c name rfl hname
      by_cases hsame : c.username = name
      -- the configured name is shown, so the password has a kept form and is tried
      · subst hsame
        have hkept : ¬ a.Unkept := fun hunkept => h ⟨⟨c, rfl, hname⟩, hunkept⟩
        obtain ⟨accepted, haccepts⟩ := exists_accepts hkept c.password
        have hprincipal := principal_eq_ite hname hshown hascii haccepts
        cases accepted with
        | true => exact Or.inl ⟨c, rfl, rfl, haccepts, hprincipal.trans (if_pos ⟨rfl, rfl⟩)⟩
        | false =>
          have hdenied := hprincipal.trans (if_neg fun hlet => (by cases hlet.2))
          refine Or.inr ⟨fun other hother _ => ?_, .failed, hdenied, unauthorized_failed⟩
          cases hother
          exact haccepts
      · refine Or.inr ⟨fun other hother hother' => ?_, .failed, ?_, unauthorized_failed⟩
        · cases hother
          exact absurd (Option.some.inj hother').symm hsame
        · exact principal_of_other hname hshown hascii hsame

/-- Whoever is answered meets no fault. -/
theorem principal_ne_fault (hcomparable : Comparable a shown) (h : ¬ (Named a shown ∧ a.Unkept))
    (f : Fault) : a.principal shown ≠ .error (.fault f) := by
  intro hfault
  rcases principal_of_answered hcomparable h with ⟨c, -, -, -, hlet⟩ | ⟨-, d, hdenied, hanswer⟩
  · cases hfault.symm.trans hlet
  · obtain rfl := Except.error.inj (hfault.symm.trans hdenied)
    exact not_unauthorized_fault f hanswer

/-- **Admins are let in, and all others are answered 401**, whatever text the kept hash is: its trial
always has an answer, and a plain password that an encoding carries has a kept form that it passes.
There are two ways out without an answer, and no third. One is that a name is shown to a configured
one and they cannot be compared; the other is that the configured name is shown and the plain
password of the account has no kept form. -/
theorem principal_or_denial (a : Account) (shown : Option Credentials) :
    (a.principal shown = .error (.fault .incomparable) ↔ ¬ Comparable a shown)
      ∧ ((∃ f, a.principal shown = .error (.fault (.unkept (.unencodable f))))
        ↔ Comparable a shown ∧ Named a shown ∧ a.Unkept)
      ∧ (∀ f, ¬ (Denial.fault f).Unauthorized)
      ∧ (Comparable a shown → ¬ (Named a shown ∧ a.Unkept) →
        (∃ c, shown = some c ∧ given a.username = some c.username
            ∧ a.accepts c.password = .ok true
            ∧ a.principal shown = .ok ⟨c.username, ["admin"]⟩)
          ∨ ((∀ c, shown = some c → given a.username = some c.username →
              a.accepts c.password = .ok false)
            ∧ ∃ d, a.principal shown = .error d ∧ d.Unauthorized))
      ∧ (∀ password kept, a.keptHash = .ok (some kept) →
        ∃ accepted, Password.attempt password kept = .ok accepted
          ∧ a.accepts password = .ok accepted)
      ∧ ∀ plain, given a.passwordHash = none → given a.passwordPlain = some plain →
        plain.isEncodable = true →
          ∃ kept, Password.hash plain plainSalt plainRounds = .ok kept
            ∧ a.keptHash = .ok (some kept) ∧ a.accepts plain = .ok true := by
  refine ⟨⟨fun hprincipal hcomparable => ?_, principal_of_not_comparable⟩,
    ⟨fun ⟨f, hprincipal⟩ => ?_, fun ⟨hcomparable, hnamed, hunkept⟩ =>
      principal_of_named_unkept hcomparable hnamed hunkept⟩,
    not_unauthorized_fault, principal_of_answered, fun password kept hkept => ?_,
    fun plain hhash hplain hencodable => ?_⟩
  -- the comparison of names comes first, so its fault excludes the other
  · by_cases hunkept : Named a shown ∧ a.Unkept
    · obtain ⟨f, hf⟩ := principal_of_named_unkept hcomparable hunkept.1 hunkept.2
      cases hprincipal.symm.trans hf
    · exact principal_ne_fault hcomparable hunkept _ hprincipal
  · have hcomparable : Comparable a shown := by
      by_contra hbeyond
      cases hprincipal.symm.trans (principal_of_not_comparable hbeyond)
    refine ⟨hcomparable, ?_⟩
    by_contra hkept
    exact principal_ne_fault hcomparable hkept _ hprincipal
  · exact ⟨_, Password.attempt_eq_verify password kept, accepts_of_kept hkept password⟩
  · exact ⟨_, hash_plain hencodable, keptHash_of_plain hhash hplain hencodable,
      (accepts_of_plain_iff hhash hplain hencodable).mpr ⟨hencodable, rfl⟩⟩

/-- An account of `admin`, whose kept hash names no rounds at all. -/
def accountOfZeroRounds : Account where
  username := some "admin"
  passwordHash := some "pbkdf2_sha256$0$c2FsdHNhbHQ=$aGFzaGhhc2g="
  passwordPlain := some "pw"

/-- A hash that cannot be evaluated is tried and rejects, also where there is a plain password. -/
theorem principal_or_denial_of_zero_rounds :
    Comparable accountOfZeroRounds (some ⟨"admin", "pw"⟩)
      ∧ Password.attempt "pw" "pbkdf2_sha256$0$c2FsdHNhbHQ=$aGFzaGhhc2g=" = .ok false
      ∧ ∃ d, accountOfZeroRounds.principal (some ⟨"admin", "pw"⟩) = .error d ∧ d.Unauthorized := by
  have hcomparable : Comparable accountOfZeroRounds (some ⟨"admin", "pw"⟩) := by
    intro c name hc hname
    cases hc
    cases hname
    decide
  have hkept : ¬ (Named accountOfZeroRounds (some ⟨"admin", "pw"⟩) ∧ accountOfZeroRounds.Unkept) :=
    fun h => by cases h.2.1
  have hfailed : accountOfZeroRounds.accepts "pw" = .ok false := by decide +kernel
  obtain ⟨-, -, -, hanswered, htried, -⟩ :=
    principal_or_denial accountOfZeroRounds (some ⟨"admin", "pw"⟩)
  obtain ⟨accepted, hattempt, haccepts⟩ := htried "pw" _ rfl
  -- no rounds cannot be run: the trial catches that and fails the password
  obtain rfl : accepted = false := Except.ok.inj (haccepts.symm.trans hfailed)
  refine ⟨hcomparable, hattempt, ?_⟩
  rcases hanswered hcomparable hkept with ⟨c, hc, -, hlet, -⟩ | ⟨-, hdenied⟩
  · cases hc
    cases hlet.symm.trans hfailed
  · exact hdenied

/-- An account with an accent in its name. -/
def accountOfAccent : Account := { username := some "é", passwordPlain := some "pw" }

/-- Where the configured name has an accent, nobody who shows credentials is answered. -/
theorem not_always_answered :
    ¬ ∀ (a : Account) (shown : Option Credentials),
      (∃ p, a.principal shown = .ok p) ∨ ∃ d, a.principal shown = .error d ∧ d.Unauthorized := by
  intro h
  have hbeyond : accountOfAccent.principal (some ⟨"admin", "pw"⟩) = .error (.fault .incomparable)
      := rfl
  rcases h accountOfAccent (some ⟨"admin", "pw"⟩) with ⟨p, hp⟩ | ⟨d, hd, refusal, hrefusal, -⟩
  · rw [hbeyond] at hp
    cases hp
  · rw [hbeyond] at hd
    cases hd
    cases hrefusal

/-- **The passwords that pass for a plain password** are those that can be encoded and derive its
key: among them the password itself and each that prepares to the same key block. All others are
answered 401, and so is everyone where the configured name is empty. -/
theorem principal_of_plain (hname : a.username = some name) (hascii : name.isAscii = true)
    (hhash : given a.passwordHash = none) (hplain : a.passwordPlain = some plain)
    (hne : plain ≠ []) (hencodable : plain.isEncodable = true) (hsame : c.username = name) :
    (a.principal (some c) = .ok (.admin name)
        ↔ name ≠ [] ∧ c.password.isEncodable = true ∧ plainKey c.password = plainKey plain)
      ∧ (a.principal (some c) = .ok (.admin name)
        ∨ ∃ d, a.principal (some c) = .error d ∧ d.Unauthorized)
      ∧ (name ≠ [] → c.password = plain → a.principal (some c) = .ok (.admin name))
      ∧ (name ≠ [] → c.password.isEncodable = true →
        Hmac.preparedKey (Utf8.encode c.password) = Hmac.preparedKey (Utf8.encode plain) →
        a.principal (some c) = .ok (.admin name)) := by
  have hgiven : given a.passwordPlain = some plain := given_eq_some_iff.mpr ⟨hplain, hne⟩
  by_cases hempty : name = []
  -- an empty name is as good as none
  · have hnobody : given a.username = none := by
      rw [hname, hempty]
      rfl
    rw [principal_of_nobody hnobody]
    exact ⟨⟨fun h => (by cases h), fun h => absurd hempty h.1⟩,
      Or.inr ⟨_, rfl, unauthorized_required⟩, fun h => absurd hempty h, fun h => absurd hempty h⟩
  · have hconfigured : given a.username = some name := given_eq_some_iff.mpr ⟨hname, hempty⟩
    have hkept : ¬ a.Unkept := by
      rintro ⟨-, other, hother, hbeyond⟩
      obtain rfl := Option.some.inj (hgiven.symm.trans hother)
      rw [hencodable] at hbeyond
      cases hbeyond
    obtain ⟨accepted, haccepts⟩ := exists_accepts hkept c.password
    have hprincipal := principal_eq_ite hconfigured (hsame ▸ hascii) hascii haccepts
    have hpasses : a.principal (some c) = .ok (.admin name)
        ↔ c.password.isEncodable = true ∧ plainKey c.password = plainKey plain := by
      rw [← accepts_of_plain_iff hhash hgiven hencodable, haccepts, hprincipal]
      cases accepted with
      | true => exact ⟨fun _ => rfl, fun _ => if_pos ⟨hsame, rfl⟩⟩
      | false =>
        rw [if_neg fun h => (by cases h.2)]
        exact ⟨fun h => (by cases h), fun h => (by cases h)⟩
    refine ⟨?_, ?_, fun _ hown => ?_, fun _ hshown hblock => ?_⟩
    · rw [hpasses]
      exact (and_iff_right hempty).symm
    · rw [hprincipal]
      split
      · exact Or.inl rfl
      · exact Or.inr ⟨_, rfl, unauthorized_failed⟩
    · rw [hpasses, hown]
      exact ⟨hencodable, rfl⟩
    · exact hpasses.mpr ⟨hshown, plainKey_congr hblock⟩

/-- An account of `admin` with the plain password `pw`. -/
def accountOfPlain : Account := { username := some "admin", passwordPlain := some "pw" }

/-- An account with a password and an empty name. -/
def accountOfNobody : Account := { username := some [], passwordPlain := some "pw" }

/-- The configured password and the same with two zeros behind it let in. -/
theorem principal_of_plain_of_zeros :
    accountOfPlain.principal (some ⟨"admin", "pw"⟩) = .ok ⟨"admin", ["admin"]⟩
      ∧ accountOfPlain.principal (some ⟨"admin", "pw\x00\x00"⟩) = .ok ⟨"admin", ["admin"]⟩ := by
  have hshort : (Utf8.encode "pw").length + 2 ≤ 64 := by decide
  have hzeros : Hmac.preparedKey (Utf8.encode "pw\x00\x00") = Hmac.preparedKey (Utf8.encode "pw") :=
    Hmac.preparedKey_append_zeros hshort
  have hown := (principal_of_plain (a := accountOfPlain) (c := ⟨"admin", "pw"⟩) rfl (by decide) rfl
    rfl (by decide) (by decide) rfl).2.2.1
  have hother := (principal_of_plain (a := accountOfPlain) (c := ⟨"admin", "pw\x00\x00"⟩) rfl
    (by decide) rfl rfl (by decide) (by decide) rfl).2.2.2
  exact ⟨hown (by decide) rfl, hother (by decide) (by decide) hzeros⟩

/-- A password with a zero behind it lets in for the one without; and the password of an account of
no name lets in nobody. -/
theorem not_only_the_configured :
    (accountOfPlain.principal (some ⟨"admin", "pw\x00"⟩) = .ok ⟨"admin", ["admin"]⟩
        ∧ ("pw\x00" : Text) ≠ "pw")
      ∧ accountOfNobody.principal (some ⟨[], "pw"⟩) = .error .required := by
  have hname : given accountOfPlain.username = some "admin" := rfl
  have hshort : (Utf8.encode "pw").length + 1 ≤ 64 := by decide
  have hzero : Hmac.preparedKey (Utf8.encode "pw\x00") = Hmac.preparedKey (Utf8.encode "pw") :=
    Hmac.preparedKey_append_zeros hshort
  have hplain : given accountOfPlain.passwordPlain = some "pw" := rfl
  have haccepts : accountOfPlain.accepts "pw\x00" = .ok true :=
    (accepts_of_plain_iff rfl hplain (by decide)).mpr ⟨by decide, plainKey_congr hzero⟩
  refine ⟨⟨?_, by decide⟩, rfl⟩
  rw [principal_eq_ite (c := ⟨"admin", "pw\x00"⟩) hname (by decide) (by decide) haccepts]
  exact if_pos ⟨rfl, rfl⟩

end Account

end IssuerGate.Admin
