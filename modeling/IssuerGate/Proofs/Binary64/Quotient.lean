import IssuerGate.Binary64
import Mathlib.Tactic.Ring

/-!
# IssuerGate — quotients that are rounded up

A quotient of whole numbers is rounded to a double, and the double is then rounded up to a whole
number. Rounding twice can go wrong: the double may be a whole number where the quotient is a little
above one. For numbers below `2 ^ 52` it does not:

* **`divHalfEven_bounds`** — a rounded quotient is within half a unit.
* **`exists_targetExponent`** — the unit of such a quotient is so small that the divisor has more
  than one of them. A quotient that is no whole number is further than that from any.
* **`ceil?_divInt?`** — so the double is rounded up to the whole number that the quotient itself is
  rounded up to.

Other quotients are rounded up to something, and that is not too large: `natAbs_ceil?_divInt?_le`.
-/

namespace IssuerGate.Binary64

/-! ## The nearest whole number -/

/-- A quotient that is rounded to the nearest is off by half a unit at most. -/
theorem divHalfEven_bounds (n : Nat) {d : Nat} (hd : 0 < d) :
    2 * n ≤ 2 * (divHalfEven n d * d) + d ∧ 2 * (divHalfEven n d * d) ≤ 2 * n + d := by
  have hsplit := Nat.div_add_mod' n d
  have hrest := Nat.mod_lt n hd
  unfold divHalfEven
  dsimp only
  split
  · omega
  · split
    · -- a tie goes up exactly if the quotient is odd
      rcases Nat.mod_two_eq_zero_or_one (n / d) with heven | hodd
      · rw [heven, Nat.add_zero]
        omega
      · rw [hodd, Nat.add_mul, Nat.one_mul]
        omega
    · rw [Nat.add_mul, Nat.one_mul]
      omega

/-! ## Exponents that are not positive -/

theorem scaled_neg (n d k : Nat) : scaled n d (-(k : Int)) = (n * 2 ^ k, d) := by
  unfold scaled
  cases k with
  | zero => simp
  | succ k =>
    have hneg : ¬ (0 : Int) ≤ -((k + 1 : Nat) : Int) := by omega
    rw [if_neg hneg, Int.neg_neg, Int.toNat_natCast, Nat.pow_eq]

theorem ratio_neg (m k : Nat) : ratio false m (-(k : Int)) = ((m : Int), 2 ^ k) := by
  unfold ratio
  cases k with
  | zero => simp
  | succ k =>
    have hneg : ¬ (0 : Int) ≤ -((k + 1 : Nat) : Int) := by omega
    dsimp only
    rw [if_neg hneg, Int.neg_neg, Int.toNat_natCast, Nat.pow_eq]
    rfl

/-- A double between a whole number and the next is rounded up to the latter. -/
theorem ceil?_finite {m k c : Nat} (hlow : c * 2 ^ k < m) (hhigh : m ≤ (c + 1) * 2 ^ k) :
    ceil? (finite false m (-(k : Int))) = some ((c : Int) + 1) := by
  have hpow : (0 : Int) < ((2 ^ k : Nat) : Int) := by
    exact_mod_cast Nat.two_pow_pos k
  -- rounding up is rounding the negative down, which divides by a power of two
  have hfloor : (-(m : Int)).fdiv ((2 ^ k : Nat) : Int) = -((c : Int) + 1) := by
    rw [Int.fdiv_eq_ediv_of_nonneg _ (Int.le_of_lt hpow)]
    have hlow' : (c : Int) * ((2 ^ k : Nat) : Int) < m := by exact_mod_cast hlow
    have hhigh' : (m : Int) ≤ ((c : Int) + 1) * ((2 ^ k : Nat) : Int) := by exact_mod_cast hhigh
    apply Int.le_antisymm
    · apply Int.le_of_lt_add_one
      apply Int.ediv_lt_of_lt_mul hpow
      have hsign : (-((c : Int) + 1) + 1) * ((2 ^ k : Nat) : Int)
          = -((c : Int) * ((2 ^ k : Nat) : Int)) := by
        rw [← Int.neg_mul]
        congr 1
        omega
      omega
    · apply Int.le_ediv_of_mul_le hpow
      rw [Int.neg_mul]
      omega
  simp only [ceil?, ratio_neg, hfloor, Int.neg_neg]

/-! ## Quotients -/

variable {n d : Nat}

/-- The unit of the quotient of numbers below `2 ^ 52`. -/
theorem exists_targetExponent (hn : 0 < n) (hn' : n < 2 ^ 52) (hd : 0 < d) (hd' : d < 2 ^ 52) :
    ∃ k : Nat, targetExponent n d = -((k + 1 : Nat) : Int) ∧ d < 2 ^ (k + 1) := by
  have hnlog : n.log2 < 52 := (Nat.log2_lt (by omega)).mpr hn'
  have hdlog : d.log2 < 52 := (Nat.log2_lt (by omega)).mpr hd'
  have hunit : d < 2 ^ (d.log2 + 1) := Nat.lt_log2_self
  have hfine (k : Nat) (hk : d.log2 ≤ k) : d < 2 ^ (k + 1) :=
    Nat.lt_of_lt_of_le hunit (Nat.pow_le_pow_right (by decide) (by omega))
  unfold targetExponent minExponent
  dsimp only
  split
  · exact ⟨d.log2 + 52 - n.log2, by omega, hfine _ (by omega)⟩
  · exact ⟨d.log2 + 51 - n.log2, by omega, hfine _ (by omega)⟩

/-- Half a unit more or less keeps a mantissa between the whole numbers around its quotient, if the
divisor has more than one unit. -/
theorem divHalfEven_between {c k : Nat} (hd : 0 < d) (hk : d < 2 ^ k) (hlow : c * d < n)
    (hhigh : n ≤ (c + 1) * d) :
    c * 2 ^ k < divHalfEven (n * 2 ^ k) d ∧ divHalfEven (n * 2 ^ k) d ≤ (c + 1) * 2 ^ k := by
  obtain ⟨hbelow, habove⟩ := divHalfEven_bounds (n * 2 ^ k) hd
  have hmore : (c * d + 1) * 2 ^ k ≤ n * 2 ^ k := Nat.mul_le_mul_right _ hlow
  have hless : n * 2 ^ k ≤ (c + 1) * d * 2 ^ k := Nat.mul_le_mul_right _ hhigh
  -- half of the divisor is less than the power of two, which is what the bounds leave
  constructor
  · apply Nat.lt_of_mul_lt_mul_right (a := d)
    have hswap : (c * d + 1) * 2 ^ k = c * 2 ^ k * d + 2 ^ k := by ring
    omega
  · apply Nat.le_of_lt_succ
    apply Nat.lt_of_mul_lt_mul_right (a := d)
    have hswap : (c + 1) * d * 2 ^ k = (c + 1) * 2 ^ k * d := by ring
    rw [Nat.succ_eq_add_one, Nat.add_mul, Nat.one_mul]
    omega

/-- The double nearest to the quotient, rounded up. -/
theorem ceil?_roundRatio (hn' : n < 2 ^ 52) (hd : 0 < d) (hd' : d < 2 ^ 52) {c : Nat}
    (hlow : c * d < n) (hhigh : n ≤ (c + 1) * d) :
    (roundRatio false n d).isFinite = true ∧ (roundRatio false n d).ceil? = some ((c : Int) + 1)
    := by
  obtain ⟨k, htarget, hk⟩ := exists_targetExponent (by omega) hn' hd hd'
  -- the rounded mantissa lies between the same whole numbers as the quotient
  obtain ⟨hmore, hless⟩ := divHalfEven_between hd hk hlow hhigh
  unfold roundRatio
  rw [if_neg (by omega), htarget]
  dsimp only
  rw [scaled_neg]
  dsimp only
  by_cases hcarry : divHalfEven (n * 2 ^ (k + 1)) d = 2 * leadingBit
  · -- a mantissa of one bit more is halved, and its unit doubled
    have hexponent : (-((k + 1 : Nat) : Int)) + 1 = -(k : Int) := by omega
    rw [if_pos hcarry]
    dsimp only
    rw [hexponent, if_neg (by unfold maxExponent; omega)]
    rw [hcarry, Nat.pow_succ, ← Nat.mul_assoc] at hmore
    rw [hcarry, Nat.pow_succ, ← Nat.mul_assoc] at hless
    exact ⟨rfl, ceil?_finite (by omega) (by omega)⟩
  · rw [if_neg hcarry]
    dsimp only
    rw [if_neg (by unfold maxExponent; omega)]
    exact ⟨rfl, ceil?_finite hmore hless⟩

/-- **A quotient that is rounded to a double and then up is rounded up.** -/
theorem ceil?_divInt? (hn' : n < 2 ^ 52) (hd : 0 < d) (hd' : d < 2 ^ 52) {c : Nat}
    (hlow : c * d < n) (hhigh : n ≤ (c + 1) * d) :
    (divInt? n d).bind ceil? = some ((c : Int) + 1) := by
  obtain ⟨hfinite, hceil⟩ := ceil?_roundRatio hn' hd hd' hlow hhigh
  have hsign : decide ((n : Int) < 0) = false := decide_eq_false (by omega)
  unfold divInt?
  dsimp only
  rw [hsign, Int.natAbs_natCast, if_pos hfinite]
  exact hceil

/-! ## How large doubles are

A mantissa has at most fifty-four bits before it is rounded, whatever is divided, because the unit
is chosen by the lengths of both numbers. With the largest exponent this bounds all doubles. -/

/-- A unit that is not too small leaves a mantissa of at most fifty-four bits. -/
theorem scaled_lt (hd : 0 < d) {e : Int} (he : (n.log2 : Int) - d.log2 - 53 ≤ e) :
    0 < (scaled n d e).2 ∧ (scaled n d e).1 < 2 ^ 54 * (scaled n d e).2 := by
  have hn : n < 2 ^ (n.log2 + 1) := Nat.lt_log2_self
  have hlow : 2 ^ d.log2 ≤ d := Nat.log2_self_le (by omega)
  unfold scaled
  split
  -- a unit above one makes the divisor larger
  · obtain ⟨k, hk⟩ : ∃ k : Nat, e.toNat = k := ⟨_, rfl⟩
    have hbits : n.log2 + 1 ≤ 54 + (d.log2 + k) := by omega
    rw [hk, Nat.pow_eq]
    refine ⟨Nat.mul_pos hd (Nat.two_pow_pos k), ?_⟩
    calc n < 2 ^ (n.log2 + 1) := hn
      _ ≤ 2 ^ (54 + (d.log2 + k)) := Nat.pow_le_pow_right (by decide) hbits
      _ = 2 ^ 54 * (2 ^ d.log2 * 2 ^ k) := by rw [Nat.pow_add, Nat.pow_add]
      _ ≤ 2 ^ 54 * (d * 2 ^ k) := Nat.mul_le_mul_left _ (Nat.mul_le_mul_right _ hlow)
  -- and one below it the dividend
  · obtain ⟨k, hk⟩ : ∃ k : Nat, (-e).toNat = k := ⟨_, rfl⟩
    have hbits : n.log2 + 1 + k ≤ 54 + d.log2 := by omega
    rw [hk, Nat.pow_eq]
    refine ⟨hd, ?_⟩
    calc n * 2 ^ k < 2 ^ (n.log2 + 1) * 2 ^ k := Nat.mul_lt_mul_of_pos_right hn (Nat.two_pow_pos k)
      _ = 2 ^ (n.log2 + 1 + k) := (Nat.pow_add ..).symm
      _ ≤ 2 ^ (54 + d.log2) := Nat.pow_le_pow_right (by decide) hbits
      _ = 2 ^ 54 * 2 ^ d.log2 := Nat.pow_add ..
      _ ≤ 2 ^ 54 * d := Nat.mul_le_mul_left _ hlow

/-- The unit lies no further below the quotient than a mantissa reaches. -/
theorem le_targetExponent (n d : Nat) : (n.log2 : Int) - d.log2 - 53 ≤ targetExponent n d := by
  unfold targetExponent
  dsimp only
  split <;> omega

/-- A finite quotient has a mantissa and an exponent within bounds. -/
theorem bounds_of_roundRatio (hd : 0 < d) {negative s : Bool} {m : Nat} {e : Int}
    (h : roundRatio negative n d = finite s m e) : m ≤ 2 ^ 54 ∧ e ≤ maxExponent := by
  unfold roundRatio zero at h
  split at h
  · cases h
    exact ⟨Nat.zero_le _, by decide⟩
  · dsimp only at h
    obtain ⟨hpos, hlt⟩ := scaled_lt hd (le_targetExponent n d)
    obtain ⟨-, hround⟩ := divHalfEven_bounds (scaled n d (targetExponent n d)).1 hpos
    have hmantissa : divHalfEven (scaled n d (targetExponent n d)).1
        (scaled n d (targetExponent n d)).2 ≤ 2 ^ 54 := by
      apply Nat.le_of_lt_succ
      apply Nat.lt_of_mul_lt_mul_right (a := (scaled n d (targetExponent n d)).2)
      rw [Nat.succ_eq_add_one, Nat.add_mul, Nat.one_mul]
      omega
    split at h
    -- a mantissa of one bit more is halved
    · split at h
      · cases h
      · next hexponent =>
        cases h
        exact ⟨(by decide : leadingBit ≤ 2 ^ 54), by omega⟩
    · split at h
      · cases h
      · next hexponent =>
        cases h
        exact ⟨hmantissa, by omega⟩

/-- The numerator of a finite double is no larger than its mantissa, or than its mantissa times its
unit. -/
theorem natAbs_ratio_le (s : Bool) (m : Nat) (e : Int) :
    (ratio s m e).1.natAbs ≤ m * 2 ^ e.toNat := by
  unfold ratio
  by_cases he : 0 ≤ e
  · rw [if_pos he, Nat.pow_eq]
    cases s <;> simp [Int.natAbs_mul]
  · have hone : m * 1 ≤ m * 2 ^ e.toNat := Nat.mul_le_mul_left m (Nat.two_pow_pos _)
    rw [if_neg he]
    cases s <;> simpa using hone

/-- So is the whole number that it is rounded up to. -/
theorem natAbs_ceil?_finite_le {s : Bool} {m : Nat} {e c : Int}
    (h : ceil? (finite s m e) = some c) : c.natAbs ≤ m * 2 ^ e.toNat := by
  have hceil : -((-(ratio s m e).1).fdiv (ratio s m e).2) = c := Option.some.inj h
  rw [← hceil, Int.natAbs_neg, Int.fdiv_eq_ediv_of_nonneg _ (Int.natCast_nonneg _)]
  calc (-(ratio s m e).1 / ((ratio s m e).2 : Int)).natAbs
      ≤ (-(ratio s m e).1).natAbs := Int.natAbs_ediv_le_natAbs ..
    _ = (ratio s m e).1.natAbs := Int.natAbs_neg _
    _ ≤ m * 2 ^ e.toNat := natAbs_ratio_le s m e

/-- **A quotient that is rounded to a double and then up has a bound**, whatever is divided. -/
theorem natAbs_ceil?_divInt?_le {a : Int} (hd : 0 < d) {c : Int}
    (h : (divInt? a d).bind ceil? = some c) : c.natAbs ≤ 2 ^ 54 * 2 ^ maxExponent.toNat := by
  obtain ⟨x, hx, hc⟩ := Option.bind_eq_some_iff.mp h
  unfold divInt? at hx
  dsimp only at hx
  split at hx
  · obtain rfl := Option.some.inj hx
    -- of the three outcomes only a finite one has a whole number above it
    cases hround : roundRatio (a < 0) a.natAbs d with
    | nan s =>
      rw [hround] at hc
      cases hc
    | infinite s =>
      rw [hround] at hc
      cases hc
    | finite s m e =>
      obtain ⟨hm, he⟩ := bounds_of_roundRatio hd hround
      rw [hround] at hc
      have hunit : 2 ^ e.toNat ≤ 2 ^ maxExponent.toNat :=
        Nat.pow_le_pow_right (by decide) (Int.toNat_le_toNat he)
      exact (natAbs_ceil?_finite_le hc).trans (Nat.mul_le_mul hm hunit)
  · cases hx

end IssuerGate.Binary64
