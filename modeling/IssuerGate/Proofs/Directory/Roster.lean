import IssuerGate.Directory.Roster

/-!
# IssuerGate — what a roster finds

A roster answers a lookup with the active member under a key hash, unless it is told to fail.
`Roster.active?` is that member, apart from outages; `active?_put` and `active?_remove` say what
changes of the members do to it, hash by hash.
-/

namespace IssuerGate

namespace Roster

/-- What a roster holds of the active issuer under a key hash. -/
def active? (r : Roster) (keyHash : Text) : Option Found :=
  ((r.members.find? (·.keyHash = keyHash)).filter (·.active)).map (·.found)

/-- Does the roster hold an active issuer of this identity under the key hash? -/
def Holds (r : Roster) (keyHash : Text) (i : Identity) : Prop :=
  ∃ f, r.active? keyHash = some f ∧ f.identity = i

/-- Does the roster hold an active issuer of this identity for the key? A key that no encoding
carries has no hash, and no issuer. -/
def HoldsFor (r : Roster) (key : Text) (i : Identity) : Prop :=
  ∃ keyHash, ApiKey.hash key = .ok keyHash ∧ r.Holds keyHash i

theorem finding_find (r : Roster) (keyHash : Text) :
    (r.find keyHash).finding
      = match r.outage with
        | some o => .error o
        | none => .ok (r.active? keyHash) := rfl

/-- What a roster finds it holds, and it answers. -/
theorem finding_eq_ok {r : Roster} {keyHash : Text} {found : Option Found}
    (h : (r.find keyHash).finding = .ok found) :
    r.outage = none ∧ r.active? keyHash = found := by
  rw [finding_find] at h
  cases houtage : r.outage with
  | some o => simp [houtage] at h
  | none => exact ⟨rfl, by simpa [houtage] using h⟩

/-- Finding among the members under other hashes. -/
theorem find?_other (members : List Member) (keyHash other : Text) :
    (members.filter (·.keyHash ≠ other)).find? (·.keyHash = keyHash)
      = if keyHash = other then none else members.find? (·.keyHash = keyHash) := by
  induction members with
  | nil => simp
  | cons m members ih =>
    -- a member that is passed over is not sought by another hash, nor found by its own
    by_cases hother : m.keyHash = other
    · rw [List.filter_cons_of_neg (by simpa using hother), ih]
      by_cases hkey : keyHash = other
      · rw [if_pos hkey, if_pos hkey]
      · rw [if_neg hkey, if_neg hkey, List.find?_cons_of_neg (by
          simpa [hother] using fun h => hkey h.symm)]
    · rw [List.filter_cons_of_pos (by simpa using hother)]
      by_cases hkey : m.keyHash = keyHash
      · rw [List.find?_cons_of_pos (by simpa using hkey), if_neg (hkey ▸ hother),
          List.find?_cons_of_pos (by simpa using hkey)]
      · rw [List.find?_cons_of_neg (by simpa using hkey), ih,
          List.find?_cons_of_neg (by simpa using hkey)]

/-- Removing a member takes away its key hash and no other. -/
theorem active?_remove (r : Roster) (keyHash other : Text) :
    (r.remove other).active? keyHash = if keyHash = other then none else r.active? keyHash := by
  show (((r.members.filter (·.keyHash ≠ other)).find? _).filter _).map _ = _
  rw [find?_other]
  split
  · rfl
  · rfl

/-- Putting a member decides of its own key hash, and of no other. -/
theorem active?_put (r : Roster) (m : Member) (keyHash : Text) :
    (r.put m).active? keyHash
      = if keyHash = m.keyHash then (if m.active then some m.found else none)
        else r.active? keyHash := by
  show (((r.members.filter (·.keyHash ≠ m.keyHash) ++ [m]).find? _).filter _).map _ = _
  rw [List.find?_append, find?_other]
  by_cases hkey : keyHash = m.keyHash
  · rw [if_pos hkey, if_pos hkey, Option.none_or,
      List.find?_cons_of_pos (by simpa using hkey.symm)]
    by_cases hactive : m.active = true
    · simp [Option.filter, hactive]
    · simp [Option.filter, hactive]
  · rw [if_neg hkey, if_neg hkey, List.find?_cons_of_neg (by simpa using fun h => hkey h.symm),
      List.find?_nil, Option.or_none]
    rfl

end Roster

end IssuerGate
