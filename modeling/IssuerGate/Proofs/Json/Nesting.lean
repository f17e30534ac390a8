import IssuerGate.Json.Nesting
import Mathlib.Tactic.SplitIfs

/-!
# IssuerGate — values within values

`all` and `overrun?` look into a value, so they are taken apart here along its constructors.

* **`all_of_both`** — what holds of a value and of all values within it is closed under inference.
* **`overrun?_of_le`** — what fits in some room fits in more.
-/

namespace IssuerGate.Json

/-! ## What holds of all values -/

theorem allItems_cons {p : Json → Bool} {v : Json} {vs : List Json} :
    allItems p (v :: vs) = true ↔ v.all p = true ∧ allItems p vs = true := Bool.and_eq_true_iff

theorem allMembers_cons {p : Json → Bool} {k : Text} {v : Json} {ms : List (Text × Json)} :
    allMembers p ((k, v) :: ms) = true ↔ v.all p = true ∧ allMembers p ms = true :=
  Bool.and_eq_true_iff

/-- What holds of all members holds of the value of each, by itself. -/
theorem allMembers_iff {p : Json → Bool} {ms : List (Text × Json)} :
    allMembers p ms = true ↔ ∀ m ∈ ms, m.2.all p = true := by
  induction ms with
  | nil => simp [allMembers]
  | cons m ms ih => rw [allMembers_cons, ih, List.forall_mem_cons]

mutual

/-- What follows from two things for every value follows for all values within one. -/
theorem all_of_both {p q r : Json → Bool} (h : ∀ v, p v = true → q v = true → r v = true)
    {v : Json} (hp : v.all p = true) (hq : v.all q = true) : v.all r = true := by
  cases v with
  | arr xs =>
    obtain ⟨hp, hps⟩ := Bool.and_eq_true_iff.mp hp
    obtain ⟨hq, hqs⟩ := Bool.and_eq_true_iff.mp hq
    exact Bool.and_eq_true_iff.mpr ⟨h _ hp hq, allItems_of_both h hps hqs⟩
  | obj ms =>
    obtain ⟨hp, hps⟩ := Bool.and_eq_true_iff.mp hp
    obtain ⟨hq, hqs⟩ := Bool.and_eq_true_iff.mp hq
    exact Bool.and_eq_true_iff.mpr ⟨h _ hp hq, allMembers_of_both h hps hqs⟩
  | null | bool | int | num | str => exact h _ hp hq

/-- Of items, two properties of every value within them give a third that follows from both. -/
theorem allItems_of_both {p q r : Json → Bool} (h : ∀ v, p v = true → q v = true → r v = true)
    {xs : List Json} (hp : allItems p xs = true) (hq : allItems q xs = true) :
    allItems r xs = true := by
  match xs with
  | [] => rfl
  | v :: vs =>
    obtain ⟨hp, hps⟩ := allItems_cons.mp hp
    obtain ⟨hq, hqs⟩ := allItems_cons.mp hq
    exact allItems_cons.mpr ⟨all_of_both h hp hq, allItems_of_both h hps hqs⟩

/-- Of members, two properties of every value within them give a third that follows from both. -/
theorem allMembers_of_both {p q r : Json → Bool} (h : ∀ v, p v = true → q v = true → r v = true)
    {ms : List (Text × Json)} (hp : allMembers p ms = true) (hq : allMembers q ms = true) :
    allMembers r ms = true := by
  match ms with
  | [] => rfl
  | (k, v) :: ms =>
    obtain ⟨hp, hps⟩ := allMembers_cons.mp hp
    obtain ⟨hq, hqs⟩ := allMembers_cons.mp hq
    exact allMembers_cons.mpr ⟨all_of_both h hp hq, allMembers_of_both h hps hqs⟩

end

mutual

/-- What holds of every value holds of a value and of all values within it. -/
theorem all_of_forall {p : Json → Bool} (h : ∀ v, p v = true) (v : Json) : v.all p = true := by
  cases v with
  | arr xs => exact Bool.and_eq_true_iff.mpr ⟨h _, allItems_of_forall h xs⟩
  | obj ms => exact Bool.and_eq_true_iff.mpr ⟨h _, allMembers_of_forall h ms⟩
  | null | bool | int | num | str => exact h _

theorem allItems_of_forall {p : Json → Bool} (h : ∀ v, p v = true) (xs : List Json) :
    allItems p xs = true := by
  match xs with
  | [] => rfl
  | v :: vs => exact allItems_cons.mpr ⟨all_of_forall h v, allItems_of_forall h vs⟩

theorem allMembers_of_forall {p : Json → Bool} (h : ∀ v, p v = true) (ms : List (Text × Json)) :
    allMembers p ms = true := by
  match ms with
  | [] => rfl
  | (k, v) :: ms => exact allMembers_cons.mpr ⟨all_of_forall h v, allMembers_of_forall h ms⟩

end

/-! ## Room -/

/-- A value without parts takes three levels to write. -/
theorem overrunSimple?_eq_none_iff {room : Nat} : overrunSimple? room = none ↔ 3 ≤ room := by
  unfold overrunSimple?
  split_ifs with hnone hsimple
  · exact iff_of_false nofun (by omega)
  · exact iff_of_false nofun (by omega)
  · exact iff_of_true rfl (by omega)

/-- An array takes two levels, and its items get what is left. -/
theorem overrun?_arr_eq_none_iff {room : Nat} {xs : List Json} :
    overrun? room (arr xs) = none ↔ 2 ≤ room ∧ overrunItems? (room - 2) xs = none := by
  unfold overrun?
  by_cases h : room < 2
  · rw [if_pos h]
    exact iff_of_false nofun fun hroom => absurd hroom.1 (Nat.not_le.mpr h)
  · rw [if_neg h]
    exact (and_iff_right (Nat.not_lt.mp h)).symm

/-- An object takes two levels, and its members get what is left. -/
theorem overrun?_obj_eq_none_iff {room : Nat} {ms : List (Text × Json)} :
    overrun? room (obj ms) = none ↔ 2 ≤ room ∧ overrunMembers? (room - 2) ms = none := by
  unfold overrun?
  by_cases h : room < 2
  · rw [if_pos h]
    exact iff_of_false nofun fun hroom => absurd hroom.1 (Nat.not_le.mpr h)
  · rw [if_neg h]
    exact (and_iff_right (Nat.not_lt.mp h)).symm

theorem overrunItems?_cons {room : Nat} {v : Json} {vs : List Json} :
    overrunItems? room (v :: vs) = none ↔ overrun? room v = none ∧ overrunItems? room vs = none :=
  Option.or_eq_none_iff

theorem overrunMembers?_cons {room : Nat} {k : Text} {v : Json} {ms : List (Text × Json)} :
    overrunMembers? room ((k, v) :: ms) = none
      ↔ 3 ≤ room ∧ overrun? room v = none ∧ overrunMembers? room ms = none := by
  rw [overrunMembers?, Option.or_eq_none_iff, Option.or_eq_none_iff, overrunSimple?_eq_none_iff]

mutual

/-- What fits in some room fits in more. -/
theorem overrun?_of_le {room more : Nat} (hle : room ≤ more) {v : Json}
    (h : overrun? room v = none) : overrun? more v = none := by
  cases v with
  | arr xs =>
    obtain ⟨hroom, hxs⟩ := overrun?_arr_eq_none_iff.mp h
    exact overrun?_arr_eq_none_iff.mpr ⟨by omega, overrunItems?_of_le (by omega) hxs⟩
  | obj ms =>
    obtain ⟨hroom, hms⟩ := overrun?_obj_eq_none_iff.mp h
    exact overrun?_obj_eq_none_iff.mpr ⟨by omega, overrunMembers?_of_le (by omega) hms⟩
  | null | bool | int | num | str =>
    have hroom := overrunSimple?_eq_none_iff.mp h
    exact overrunSimple?_eq_none_iff.mpr (by omega)

theorem overrunItems?_of_le {room more : Nat} (hle : room ≤ more) {xs : List Json}
    (h : overrunItems? room xs = none) : overrunItems? more xs = none := by
  match xs with
  | [] => rfl
  | v :: vs =>
    obtain ⟨hv, hvs⟩ := overrunItems?_cons.mp h
    exact overrunItems?_cons.mpr ⟨overrun?_of_le hle hv, overrunItems?_of_le hle hvs⟩

theorem overrunMembers?_of_le {room more : Nat} (hle : room ≤ more) {ms : List (Text × Json)}
    (h : overrunMembers? room ms = none) : overrunMembers? more ms = none := by
  match ms with
  | [] => rfl
  | (k, v) :: ms =>
    obtain ⟨hroom, hv, hms⟩ := overrunMembers?_cons.mp h
    exact overrunMembers?_cons.mpr
      ⟨by omega, overrun?_of_le hle hv, overrunMembers?_of_le hle hms⟩

end

theorem overrunMembers?_eq_none {room : Nat} {ms : List (Text × Json)} (hroom : 3 ≤ room)
    (h : ∀ m ∈ ms, m.2.overrun? room = none) : overrunMembers? room ms = none := by
  induction ms with
  | nil => rfl
  | cons m ms ih =>
    obtain ⟨hm, hms⟩ := List.forall_mem_cons.mp h
    exact overrunMembers?_cons.mpr ⟨hroom, hm, ih hms⟩

end IssuerGate.Json
