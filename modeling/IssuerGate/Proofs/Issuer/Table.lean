import IssuerGate.Issuer.Table
import Mathlib.Tactic.SplitIfs

/-!
# IssuerGate — rows that a table takes

* **`insert_eq_ok_iff`** — a row is added behind the others if its columns are there and it breaks no
  constraint.
* **`clash?_eq_none_iff`** — it breaks none if no row has its key hash, its public key or its id.
* **`row_entry_eq_ok_iff`** — the row of a new issuer, which needs a name.
-/

namespace IssuerGate.Issuer.Table

variable {t : Table} {r : Row}

/-- A row is inserted iff its entry makes one and no constraint keeps it out. -/
theorem insert_eq_ok_iff {now : Calendar.Instant} {e : Entry} {t' : Table} :
    t.insert now e = .ok (t', r) ↔ e.row now = .ok r ∧ t.clash? r = none ∧ t' = t ++ [r] := by
  unfold insert
  cases hrow : e.row now with
  | error fault =>
    constructor
    · intro h
      cases h
    · rintro ⟨h, -⟩
      cases h
  | ok q =>
    have hpure : (Except.ok q : Except TableFault Row) = pure q := rfl
    rw [hpure, pure_bind]
    -- a row that was made is kept out by the first constraint that it breaks
    cases hclash : t.clash? q with
    | some column =>
      constructor
      · intro h
        cases h
      · rintro ⟨hq, hnone, -⟩
        rw [← Except.ok.inj hq, hclash] at hnone
        cases hnone
    | none =>
      constructor
      · intro h
        obtain ⟨rfl, rfl⟩ := Prod.mk.inj (Except.ok.inj h)
        exact ⟨rfl, hclash, rfl⟩
      · rintro ⟨hq, -, rfl⟩
        obtain rfl := Except.ok.inj hq
        rfl

/-- No constraint keeps a row out iff its hash, if any, its public key and its id are new. -/
theorem clash?_eq_none_iff : t.clash? r = none
    ↔ (∀ q ∈ t, r.keyHash.isSome → q.keyHash ≠ r.keyHash)
      ∧ (∀ q ∈ t, q.publicKey ≠ r.publicKey) ∧ ∀ q ∈ t, q.id ≠ r.id := by
  unfold clash?
  simp only [List.any_eq_true, decide_eq_true_eq]
  -- in the order in which the constraints are checked
  split_ifs with hhash hkey hid
  · obtain ⟨hsome, q, hq, hsame⟩ := hhash
    exact iff_of_false not_false fun h => h.1 q hq hsome hsame
  · obtain ⟨q, hq, hsame⟩ := hkey
    exact iff_of_false not_false fun h => h.2.1 q hq hsame
  · obtain ⟨q, hq, hsame⟩ := hid
    exact iff_of_false not_false fun h => h.2.2 q hq hsame
  · exact iff_of_true rfl ⟨fun q hq hsome hsame => hhash ⟨hsome, q, hq, hsame⟩,
      fun q hq hsame => hkey ⟨q, hq, hsame⟩, fun q hq hsame => hid ⟨q, hq, hsame⟩⟩

/-- The row of a new issuer. -/
def rowOf (d : Draft) (issued : Mint.Issued) (name : Text) (now : Calendar.Instant) : Row where
  id := issued.id
  name := name
  publicKey := issued.publicKey
  description := d.description
  active := true
  website := d.website
  contactEmail := d.contactEmail
  tier := d.tier.name
  keyHash := some (ApiKey.digest issued.apiKey)
  createdAt := Calendar.wholeSecond now

/-- The entry of a draft makes a row iff the draft has a name. -/
theorem row_entry_eq_ok_iff {d : Draft} {issued : Mint.Issued} {now : Calendar.Instant} :
    (entry d issued).row now = .ok r ↔ ∃ name, d.name = some name ∧ r = rowOf d issued name now := by
  unfold Entry.row entry
  cases hname : d.name with
  | none =>
    constructor
    · intro h
      cases h
    · rintro ⟨name, h, -⟩
      cases h
  | some name =>
    constructor
    · intro h
      exact ⟨name, rfl, (Except.ok.inj h).symm⟩
    · rintro ⟨name', hname', rfl⟩
      rw [← Option.some.inj hname']
      rfl

end IssuerGate.Issuer.Table
