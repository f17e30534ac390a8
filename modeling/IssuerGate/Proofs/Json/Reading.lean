import IssuerGate.Proofs.Json.RoundTrip
import Mathlib.Data.Nat.Digits.Defs

/-!
# IssuerGate — what the reader gives

Two facts about every text, not only about written ones:

* **`all_of_read`** — the reader has seen to the length of the numbers and to the names of the objects
  in each value that it gives. So a value that was read can be read back once it is written, if there
  are no doubles in it, `isPlain_of_readHead`.
* **`read_of_le`** — room for nesting matters only to what is nested too deep.
-/

namespace IssuerGate.Json

/-! ## Values that were read -/

/-- What the reader sees to in each value: whole numbers are not too long, names are distinct. -/
def readHead : Json → Bool
  | int i => decide ((Text.ofNat i.natAbs).length ≤ Text.maxDigits)
  | obj ms => decide (ms.map Prod.fst).Nodup
  | _ => true

def isDouble : Json → Bool
  | num _ => true
  | _ => false

/-- Is there no double among the values within a value? -/
def hasNoDouble (v : Json) : Bool := v.all fun w => !w.isDouble

/-- A value that was read is plain unless there is a double in it. -/
theorem isPlain_of_readHead {v : Json} (hread : v.all readHead = true)
    (hdouble : v.hasNoDouble = true) : v.isPlain = true := by
  refine all_of_both (fun w hw hd => ?_) hread hdouble
  cases w with
  | num x => cases hd
  | null | bool | int | str | arr | obj => exact hw

/-- Digits read behind a number make less of it than the next number has with as many zeros. -/
theorem foldl_digits_lt (ds : List Nat) (h : ∀ d ∈ ds, d < 10) (n : Nat) :
    ds.foldl (fun n d => 10 * n + d) n < (n + 1) * 10 ^ ds.length := by
  induction ds generalizing n with
  | nil => simp
  | cons d ds ih =>
    have hd := h d List.mem_cons_self
    have htail := ih (fun e he => h e (List.mem_cons_of_mem d he)) (10 * n + d)
    have hstep : (10 * n + d + 1) * 10 ^ ds.length ≤ (n + 1) * 10 ^ (ds.length + 1) := by
      rw [Nat.pow_succ', ← Nat.mul_assoc]
      exact Nat.mul_le_mul_right _ (by omega)
    exact Nat.lt_of_lt_of_le htail hstep

/-- A number has no more digits than the text that denotes it. -/
theorem length_ofNat_digitsValue_le {t : Text} (ht : t ≠ []) :
    (Text.ofNat (digitsValue t)).length ≤ t.length := by
  have hdigit : ∀ d ∈ t.filterMap CodePoint.asciiDigit?, d < 10 := by
    intro d hd
    obtain ⟨c, -, hc⟩ := List.mem_filterMap.mp hd
    unfold CodePoint.asciiDigit? at hc
    split_ifs at hc with hrange
    have hval := Option.some.inj hc
    omega
  -- digits below ten make less than ten to their number, hence no more digits when written
  have hvalue : digitsValue t < 10 ^ t.length := by
    have hlt := foldl_digits_lt _ hdigit 0
    have hle : (t.filterMap CodePoint.asciiDigit?).length ≤ t.length := List.length_filterMap_le ..
    calc digitsValue t < (0 + 1) * 10 ^ (t.filterMap CodePoint.asciiDigit?).length := hlt
      _ = 10 ^ (t.filterMap CodePoint.asciiDigit?).length := by rw [Nat.zero_add, Nat.one_mul]
      _ ≤ 10 ^ t.length := Nat.pow_le_pow_right (by decide) hle
  unfold Text.ofNat Text.ofChars
  rw [List.length_map]
  exact Nat.toDigits_length 10 _ _ (List.length_pos_of_ne_nil ht) hvalue

variable {fuel depth : Nat} {t rest : Text} {v : Json}

/-- An integer is read from at most as many digits as may be read, so it has no more. -/
theorem all_of_readNumber {negative : Bool} (h : readNumber negative t = .ok (v, rest)) :
    v.all readHead = true := by
  unfold readNumber at h
  dsimp only at h
  split_ifs at h with hempty hwhole hlong hnegative
  -- of the two integers, the first carries a sign
  · obtain ⟨rfl, -⟩ := Prod.mk.inj (Except.ok.inj h)
    have hle := length_ofNat_digitsValue_le hempty
    refine decide_eq_true ?_
    rw [Int.natAbs_neg, Int.natAbs_natCast]
    omega
  · obtain ⟨rfl, -⟩ := Prod.mk.inj (Except.ok.inj h)
    have hle := length_ofNat_digitsValue_le hempty
    refine decide_eq_true ?_
    rw [Int.natAbs_natCast]
    omega
  -- a double has no digits to bound
  · obtain ⟨rfl, -⟩ := Prod.mk.inj (Except.ok.inj h)
    rfl

theorem all_of_readScalar (h : readScalar t = .ok (v, rest)) : v.all readHead = true := by
  unfold readScalar at h
  split at h
  · next r hword =>
    obtain ⟨w, hw, hfound⟩ := List.exists_of_findSome?_eq_some hword
    obtain ⟨u, -, rfl⟩ := Option.map_eq_some_iff.mp hfound
    obtain ⟨rfl, -⟩ := Prod.mk.inj (Except.ok.inj h)
    have hwords : ∀ w ∈ words, w.2.all readHead = true := by decide
    exact hwords w hw
  · split at h
    · split_ifs at h
      · exact all_of_readNumber h
      · exact all_of_readNumber h
    · cases h

/-! Setting members one after the other makes no name twice, and what holds of all their values
holds of all that are left. -/

theorem map_fst_setMember_of_mem {k : Text} {ms : List (Text × Json)} (h : k ∈ ms.map Prod.fst)
    (v : Json) : (setMember k v ms).map Prod.fst = ms.map Prod.fst := by
  induction ms with
  | nil => cases h
  | cons m ms ih =>
    unfold setMember
    by_cases hk : m.1 = k
    · rw [if_pos hk]
      rfl
    · rw [List.map_cons, List.mem_cons] at h
      have hlater := ih (h.resolve_left fun heq => hk heq.symm)
      rw [if_neg hk, List.map_cons, List.map_cons, hlater]

theorem nodup_setMember {k : Text} {ms : List (Text × Json)} (h : (ms.map Prod.fst).Nodup)
    (v : Json) : ((setMember k v ms).map Prod.fst).Nodup := by
  by_cases hk : k ∈ ms.map Prod.fst
  · rw [map_fst_setMember_of_mem hk]
    exact h
  · rw [setMember_of_not_mem hk, List.map_append]
    refine List.Nodup.append h (List.nodup_singleton k) ?_
    exact List.disjoint_singleton.mpr hk

/-- Setting a member keeps what holds of all values if it holds of the new one. -/
theorem allMembers_setMember {p : Json → Bool} {k : Text} {ms : List (Text × Json)}
    (hv : v.all p = true) (hms : allMembers p ms = true) :
    allMembers p (setMember k v ms) = true := by
  induction ms with
  | nil => exact allMembers_cons.mpr ⟨hv, rfl⟩
  | cons m ms ih =>
    obtain ⟨hm, hms⟩ := allMembers_cons.mp hms
    unfold setMember
    split_ifs
    · exact allMembers_cons.mpr ⟨hv, hms⟩
    · exact allMembers_cons.mpr ⟨hm, ih hms⟩

/-- Collecting members keeps what holds of all values, and leaves each name standing once. -/
theorem foldl_setMember_keeps {p : Json → Bool} (seen : List (Text × Json))
    {ms : List (Text × Json)} (hms : allMembers p ms = true) (hseen : allMembers p seen = true)
    (hnames : (seen.map Prod.fst).Nodup) :
    allMembers p (ms.foldl (fun seen (k, v) => setMember k v seen) seen) = true
      ∧ ((ms.foldl (fun seen (k, v) => setMember k v seen) seen).map Prod.fst).Nodup := by
  induction ms generalizing seen with
  | nil => exact ⟨hseen, hnames⟩
  | cons m ms ih =>
    obtain ⟨hm, hms⟩ := allMembers_cons.mp hms
    exact ih _ hms (allMembers_setMember hm hseen) (nodup_setMember hnames m.2)

mutual

/-- Every value that is read is such as reading makes it, down to its parts. -/
theorem all_of_readValue {fuel depth : Nat} {t rest : Text} {v : Json}
    (h : readValue fuel depth t = .ok (v, rest)) : v.all readHead = true := by
  match fuel, t with
  | 0, _ => cases h
  | _ + 1, [] => cases h
  | fuel + 1, c :: t =>
    unfold readValue at h
    split_ifs at h
    · split at h
      · obtain ⟨rfl, -⟩ := Prod.mk.inj (Except.ok.inj h)
        rfl
      · cases h
    · split at h
      · cases h
      · split at h
        · next hitems =>
          obtain ⟨rfl, -⟩ := Prod.mk.inj (Except.ok.inj h)
          exact allItems_of_readItems hitems
        · cases h
    · split at h
      · cases h
      · split at h
        -- members of a name that comes again are dropped, with what was in them
        · next hmembers =>
          obtain ⟨rfl, -⟩ := Prod.mk.inj (Except.ok.inj h)
          obtain ⟨hall, hnames⟩ :=
            foldl_setMember_keeps [] (allMembers_of_readMembers hmembers) rfl List.nodup_nil
          exact Bool.and_eq_true_iff.mpr ⟨decide_eq_true hnames, hall⟩
        · cases h
    · exact all_of_readScalar h

/-- The items of an array that is read are such as reading makes them. -/
theorem allItems_of_readItems {fuel depth : Nat} {t rest : Text} {start : Bool} {xs : List Json}
    (h : readItems fuel depth t start = .ok (xs, rest)) : allItems readHead xs = true := by
  -- the reader stops at the bracket, behind the last item, or goes on behind a comma
  match fuel, t with
  | 0, _ => cases h
  | _ + 1, [] => cases h
  | fuel + 1, c :: t =>
    rw [readItems] at h
    split_ifs at h
    · obtain ⟨rfl, -⟩ := Prod.mk.inj (Except.ok.inj h)
      rfl
    · split at h
      · cases h
      · next hvalue =>
        have hv := all_of_readValue hvalue
        split at h
        · cases h
        · split_ifs at h
          · obtain ⟨rfl, -⟩ := Prod.mk.inj (Except.ok.inj h)
            exact allItems_cons.mpr ⟨hv, rfl⟩
          · split at h
            · next hitems =>
              obtain ⟨rfl, -⟩ := Prod.mk.inj (Except.ok.inj h)
              exact allItems_cons.mpr ⟨hv, allItems_of_readItems hitems⟩
            · cases h

/-- The members of an object that is read are such as reading makes them. -/
theorem allMembers_of_readMembers {fuel depth : Nat} {t rest : Text} {start : Bool}
    {ms : List (Text × Json)}
    (h : readMembers fuel depth t start = .ok (ms, rest)) : allMembers readHead ms = true := by
  -- as for items, with a name and a colon in front of each value
  match fuel, t with
  | 0, _ => cases h
  | _ + 1, [] => cases h
  | fuel + 1, c :: t =>
    rw [readMembers] at h
    split_ifs at h
    · obtain ⟨rfl, -⟩ := Prod.mk.inj (Except.ok.inj h)
      rfl
    · split at h
      · cases h
      · split at h
        · cases h
        · split_ifs at h
          split at h
          · cases h
          · next hvalue =>
            have hv := all_of_readValue hvalue
            split at h
            · cases h
            · split_ifs at h
              · obtain ⟨rfl, -⟩ := Prod.mk.inj (Except.ok.inj h)
                exact allMembers_cons.mpr ⟨hv, rfl⟩
              · split at h
                · next hmembers =>
                  obtain ⟨rfl, -⟩ := Prod.mk.inj (Except.ok.inj h)
                  exact allMembers_cons.mpr ⟨hv, allMembers_of_readMembers hmembers⟩
                · cases h

end

/-- A document that is read holds no number with too many digits and no name twice in one object. -/
theorem all_of_read (h : read depth t = .ok v) : v.all readHead = true := by
  unfold read at h
  split at h
  · cases h
  · next hvalue =>
    split_ifs at h
    rw [← Except.ok.inj h]
    exact all_of_readValue hvalue

/-! ## Room for nesting -/

/-- The second result is the first, unless that one met nesting too deep. -/
def Extends {α : Type} (r r' : Reading α) : Prop := r' = r ∨ ∃ c, r = .error (.tooDeep c)

mutual

/-- One more level to descend changes the reading of a value only where it stopped for depth. -/
theorem readValue_extends (fuel depth : Nat) (t : Text) :
    Extends (readValue fuel depth t) (readValue fuel (depth + 1) t) := by
  match fuel, t with
  | 0, _ => exact Or.inl rfl
  | _ + 1, [] => exact Or.inl rfl
  | fuel + 1, c :: t =>
    unfold readValue
    split_ifs
    · exact Or.inl rfl
    -- only here does the depth decide anything, and only where there is none left
    · cases depth with
      | zero => exact Or.inr ⟨c, rfl⟩
      | succ depth =>
        dsimp only
        rcases readItems_extends fuel depth (skipSpace t) true with heq | ⟨d, hdeep⟩
        · rw [heq]
          exact Or.inl rfl
        · rw [hdeep]
          exact Or.inr ⟨d, rfl⟩
    · cases depth with
      | zero => exact Or.inr ⟨c, rfl⟩
      | succ depth =>
        dsimp only
        rcases readMembers_extends fuel depth (skipSpace t) true with heq | ⟨d, hdeep⟩
        · rw [heq]
          exact Or.inl rfl
        · rw [hdeep]
          exact Or.inr ⟨d, rfl⟩
    · exact Or.inl rfl

/-- The same of the items of an array. -/
theorem readItems_extends (fuel depth : Nat) (t : Text) (start : Bool) :
    Extends (readItems fuel depth t start) (readItems fuel (depth + 1) t start) := by
  match fuel, t with
  | 0, _ => exact Or.inl rfl
  | _ + 1, [] => exact Or.inl rfl
  | fuel + 1, c :: t =>
    unfold readItems
    split_ifs
    · exact Or.inl rfl
    -- the first value may stop for depth; if it does not, the rest may
    · rcases readValue_extends fuel depth (c :: t) with heq | ⟨d, hdeep⟩
      · rw [heq]
        split
        · exact Or.inl rfl
        · split
          · exact Or.inl rfl
          · next u _ =>
            split_ifs
            · exact Or.inl rfl
            · rcases readItems_extends fuel depth (skipSpace u) false with heq | ⟨d, hdeep⟩
              · rw [heq]
                exact Or.inl rfl
              · rw [hdeep]
                exact Or.inr ⟨d, rfl⟩
            · exact Or.inl rfl
      · rw [hdeep]
        exact Or.inr ⟨d, rfl⟩

/-- The same of the members of an object. -/
theorem readMembers_extends (fuel depth : Nat) (t : Text) (start : Bool) :
    Extends (readMembers fuel depth t start) (readMembers fuel (depth + 1) t start) := by
  match fuel, t with
  | 0, _ => exact Or.inl rfl
  | _ + 1, [] => exact Or.inl rfl
  | fuel + 1, c :: t =>
    unfold readMembers
    split_ifs
    · exact Or.inl rfl
    · split
      · exact Or.inl rfl
      · split
        · exact Or.inl rfl
        · next u _ =>
          split_ifs
          -- the value may stop for depth; if it does not, the members behind it may
          · rcases readValue_extends fuel depth (skipSpace u) with heq | ⟨d, hdeep⟩
            · rw [heq]
              split
              · exact Or.inl rfl
              · split
                · exact Or.inl rfl
                · next w _ =>
                  split_ifs
                  · exact Or.inl rfl
                  · rcases readMembers_extends fuel depth (skipSpace w) false with
                      heq | ⟨d, hdeep⟩
                    · rw [heq]
                      exact Or.inl rfl
                    · rw [hdeep]
                      exact Or.inr ⟨d, rfl⟩
                  · exact Or.inl rfl
            · rw [hdeep]
              exact Or.inr ⟨d, rfl⟩
          · exact Or.inl rfl
    · exact Or.inl rfl

end

/-- A document that does not stop for depth is read alike with one more level to descend. -/
theorem read_succ_depth (h : ∀ c, read depth t ≠ .error (.tooDeep c)) :
    read (depth + 1) t = read depth t := by
  unfold read at h ⊢
  rcases readValue_extends (2 * t.length + 2) depth (skipSpace t) with heq | ⟨c, hdeep⟩
  · rw [heq]
  · rw [hdeep] at h
    exact absurd rfl (h c)

/-- **More room for nesting changes nothing** where there was enough of it. -/
theorem read_of_le {more : Nat} (hle : depth ≤ more) (h : ∀ c, read depth t ≠ .error (.tooDeep c)) :
    read more t = read depth t := by
  induction hle with
  | refl => rfl
  | step _ ih =>
    rw [read_succ_depth, ih]
    intro c
    rw [ih]
    exact h c

end IssuerGate.Json
