import Mathlib.Data.List.Nodup

/-!
# IssuerGate — entries found by a key

Buckets and cached identities are kept in lists and found by a key of theirs: the first entry under
the key is the one that counts. Where no two entries have the same key, the first is the only one:

* **`find?_filter_of_nodup`** — what a test drops takes nothing else away from a look-up.
* **`filter_key_of_nodup`** — what is found under a key is all there is.
* **`find?_of_mem`** — each entry is found under its own key.
-/

namespace IssuerGate.Keyed

variable {α κ : Type} [DecidableEq κ] {key : α → κ} {xs : List α}

/-- Where keys are distinct, a filter keeps what is found under a key, or leaves nothing there. -/
theorem find?_filter_of_nodup (h : (xs.map key).Nodup) (p : α → Bool) (k : κ) :
    (xs.filter p).find? (key · = k) = (xs.find? (key · = k)).filter p := by
  induction xs with
  | nil => rfl
  | cons x xs ih =>
    rw [List.map_cons, List.nodup_cons] at h
    by_cases hx : key x = k
    · -- the key stands at no later entry, so a dropped one leaves nothing to find
      have hlater : ∀ y ∈ xs, key y ≠ k := fun y hy hkey =>
        h.1 (List.mem_map.mpr ⟨y, hy, hkey.trans hx.symm⟩)
      have hnone : (xs.filter p).find? (key · = k) = none := by
        rw [List.find?_eq_none]
        intro y hy
        simpa using hlater y (List.mem_filter.mp hy).1
      by_cases hp : p x = true
      · simp [hp, hx, Option.filter]
      · simp [hp, hx, hnone, Option.filter]
    · by_cases hp : p x = true
      · simpa [hp, hx] using ih h.2
      · simpa [hp, hx] using ih h.2

/-- Where keys are distinct, one entry at most has a key: that which is found. -/
theorem filter_key_of_nodup (h : (xs.map key).Nodup) (k : κ) :
    xs.filter (key · = k) = (xs.find? (key · = k)).toList := by
  induction xs with
  | nil => rfl
  | cons x xs ih =>
    rw [List.map_cons, List.nodup_cons] at h
    by_cases hx : key x = k
    · -- no later entry has the key
      have hnone : xs.filter (key · = k) = [] := by
        rw [List.filter_eq_nil_iff]
        intro y hy hkey
        exact h.1 (List.mem_map.mpr ⟨y, hy, (of_decide_eq_true hkey).trans hx.symm⟩)
      simp [hx, hnone]
    · simpa [hx] using ih h.2

/-- Where keys are distinct, each entry is found under its own. -/
theorem find?_of_mem (h : (xs.map key).Nodup) {x : α} (hx : x ∈ xs) :
    xs.find? (key · = key x) = some x := by
  cases hfind : xs.find? (key · = key x) with
  | none => exact absurd (decide_eq_true rfl) (List.find?_eq_none.mp hfind x hx)
  | some y =>
    have hkey : key y = key x := by simpa using List.find?_some hfind
    rw [List.inj_on_of_nodup_map h (List.mem_of_find?_eq_some hfind) hx hkey]

end IssuerGate.Keyed
