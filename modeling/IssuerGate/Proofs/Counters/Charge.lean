import IssuerGate.Counters

/-!
# IssuerGate — one request against one bucket

`Counters.consume` finds a bucket, rolls it over, decides, counts and stores it again. Everything
but the finding and the storing is a function of the one bucket that is found, `Bucket.charge`:

* **`consume_eq_charge`** — a consume sets the bucket of its key to the charged one and gives back
  the verdict of the charge. Nothing else that is stored has a say.
* **`charge_filter_isLive`** — a charge looks only at a bucket whose window is running, so an
  elapsed bucket and a missing one are the same to it. This is why a sweep cannot be noticed.
* **`charge_of_le`**, **`charge_of_lt`** — what a charge does at the limit and below it.
-/

namespace IssuerGate

/-! ## Quotas -/

/-- The larger limit of a quota, or zero if both are negative. -/
def Quota.maxLimit (q : Quota) : Int := max 0 (max q.freeLimit q.paidLimit)

theorem Quota.maxLimit_nonneg (q : Quota) : 0 ≤ q.maxLimit := by
  unfold maxLimit
  omega

theorem Quota.limitFor_le_maxLimit (q : Quota) (tier : Tier) : q.limitFor tier ≤ q.maxLimit := by
  unfold maxLimit
  cases tier with
  | free =>
    show q.freeLimit ≤ _
    omega
  | paid =>
    show q.paidLimit ≤ _
    omega

/-- The product of the free limit and the threshold is a finite double, so that the upgrade mark
of free issuers exists. -/
def Quota.HasMark (q : Quota) : Prop :=
  (Binary64.ofInt? q.freeLimit).any fun l => (l.mul q.upgradeThreshold).isFinite

instance (q : Quota) : Decidable q.HasMark := inferInstanceAs (Decidable (_ = true))

theorem Quota.HasMark.upgradeMark_eq {q : Quota} (hq : q.HasMark) :
    ∃ mark, q.upgradeMark q.freeLimit = .ok mark := by
  obtain ⟨l, hl, hfin⟩ := (Option.any_eq_true _ _).mp hq
  simp only [upgradeMark, hl]
  cases hx : l.mul q.upgradeThreshold with
  | nan s => simp [hx, Binary64.isFinite] at hfin
  | infinite s => simp [hx, Binary64.isFinite] at hfin
  | finite s m e => exact ⟨_, rfl⟩

/-- With a mark, whether a request calls for a nudge is always known. -/
theorem Quota.HasMark.nudges_eq {q : Quota} (hq : q.HasMark) (tier : Tier) (b : Bucket) :
    ∃ nudge, Counters.nudges q tier (q.limitFor tier) b = .ok nudge := by
  unfold Counters.nudges
  split
  · next h =>
    obtain ⟨mark, hmark⟩ := hq.upgradeMark_eq
    rw [h.1, Quota.limitFor, hmark]
    exact ⟨_, rfl⟩
  · exact ⟨false, rfl⟩

/-- Only a free issuer is nudged, and only one that was not nudged before. -/
theorem Counters.of_nudges {q : Quota} {tier : Tier} {limit : Int} {b : Bucket}
    (h : Counters.nudges q tier limit b = .ok true) : tier = .free ∧ b.nudged = false := by
  unfold Counters.nudges at h
  split at h
  · next hfree => exact hfree
  · cases h

/-- With a known mark, who is nudged. -/
theorem Counters.nudges_of_upgradeMark {q : Quota} {mark : Int}
    (hmark : q.upgradeMark q.freeLimit = .ok mark) (tier : Tier) (b : Bucket) :
    Counters.nudges q tier (q.limitFor tier) b
      = .ok (decide (tier = .free ∧ b.nudged = false ∧ mark ≤ b.count)) := by
  unfold Counters.nudges
  by_cases hfree : tier = .free ∧ b.nudged = false
  · rw [if_pos hfree, hfree.1, Quota.limitFor, hmark]
    simp [Except.map, hfree.2]
  · rw [if_neg hfree, decide_eq_false]
    exact fun h => hfree ⟨h.1, h.2.1⟩

namespace Bucket

/-! ## One bucket -/

/-- Is a window of some length that the bucket opened still running? -/
def isLive (window now : Int) (b : Bucket) : Bool := now - b.windowStart < window

theorem isLive_of_le {window now later : Int} {b : Bucket} (hle : now ≤ later)
    (h : b.isLive window later = true) : b.isLive window now = true := by
  unfold isLive at h ⊢
  rw [decide_eq_true_eq] at h ⊢
  omega

/-- The bucket in which a request counts: the given one while its window runs, else a fresh one. -/
def roll (window now : Int) (tier : Tier) (b? : Option Bucket) : Bucket :=
  (b?.filter (isLive window now)).getD ⟨now, 0, tier, false⟩

/-- Rolls over, compares and counts one request on a bucket alone. -/
def charge (window : Int) (q : Quota) (now : Int) (tier : Tier) (b? : Option Bucket) :
    Bucket × Except Binary64.Fault Counters.Verdict :=
  let limit := q.limitFor tier
  let b := roll window now tier b?
  if limit ≤ b.count then (b, .ok ⟨false, limit, b, false⟩)
  else
    let counted := { b with count := b.count + 1 }
    match Counters.nudges q tier limit counted with
    | .error e => (counted, .error e)
    | .ok nudge =>
      let after := { counted with nudged := counted.nudged || nudge }
      (after, .ok ⟨true, limit, after, nudge⟩)

/-- A rolled bucket is a live given one or a fresh one. -/
theorem roll_cases (window now : Int) (tier : Tier) (b? : Option Bucket) :
    (∃ b, b? = some b ∧ now - b.windowStart < window ∧ roll window now tier b? = b)
      ∨ ((∀ b, b? = some b → window ≤ now - b.windowStart)
        ∧ roll window now tier b? = ⟨now, 0, tier, false⟩) := by
  unfold roll
  cases b? with
  | none => exact Or.inr ⟨by simp, rfl⟩
  | some b =>
    -- a running bucket is taken on, any other is replaced
    by_cases hb : b.isLive window now = true
    · have hlt : now - b.windowStart < window := by simpa [isLive] using hb
      exact Or.inl ⟨b, rfl, hlt, by simp [Option.filter, hb]⟩
    · have hle : window ≤ now - b.windowStart := by simpa [isLive] using hb
      refine Or.inr ⟨fun d hd => ?_, by simp [Option.filter, hb]⟩
      rw [← Option.some.inj hd]
      exact hle

/-- A bucket that has run out makes no difference to rolling. -/
theorem roll_filter_isLive (window now : Int) (tier : Tier) (b? : Option Bucket) :
    roll window now tier (b?.filter (isLive window now)) = roll window now tier b? := by
  unfold roll
  cases b? with
  | none => rfl
  | some b => by_cases hb : b.isLive window now = true <;> simp [Option.filter, hb]

/-- A charge looks only at a live bucket. -/
theorem charge_filter_isLive (window : Int) (q : Quota) (now : Int) (tier : Tier)
    (b? : Option Bucket) :
    charge window q now tier (b?.filter (isLive window now)) = charge window q now tier b? := by
  unfold charge
  rw [roll_filter_isLive]

variable {window : Int} {q : Quota} {now : Int} {tier : Tier} {b? : Option Bucket}

/-- At the limit a request is denied and not counted. -/
theorem charge_of_le (h : q.limitFor tier ≤ (roll window now tier b?).count) :
    charge window q now tier b?
      = (roll window now tier b?,
        .ok ⟨false, q.limitFor tier, roll window now tier b?, false⟩) := by
  unfold charge
  dsimp only
  rw [if_pos h]

/-- Below the limit a request is counted in its window, whether or not its upgrade mark is known;
if the charge gives a verdict, it admits the request and shows the counted bucket. -/
theorem charge_of_lt (h : (roll window now tier b?).count < q.limitFor tier) :
    (charge window q now tier b?).1.windowStart = (roll window now tier b?).windowStart
      ∧ (charge window q now tier b?).1.count = (roll window now tier b?).count + 1
      ∧ ∀ v, (charge window q now tier b?).2 = .ok v →
        v.allowed = true ∧ v.limit = q.limitFor tier ∧ v.bucket = (charge window q now tier b?).1
      := by
  unfold charge
  dsimp only
  rw [if_neg (by omega)]
  split
  · exact ⟨rfl, rfl, fun v hv => by simp at hv⟩
  · refine ⟨rfl, rfl, fun v hv => ?_⟩
    rw [← Except.ok.inj hv]
    exact ⟨rfl, rfl, rfl⟩

/-- What a charge can do: deny at the limit; below it count and fail, or count and admit, perhaps
with a nudge. -/
theorem charge_cases (window : Int) (q : Quota) (now : Int) (tier : Tier) (b? : Option Bucket) :
    let rolled := roll window now tier b?
    let counted : Bucket := { rolled with count := rolled.count + 1 }
    (q.limitFor tier ≤ rolled.count
        ∧ charge window q now tier b? = (rolled, .ok ⟨false, q.limitFor tier, rolled, false⟩))
      ∨ rolled.count < q.limitFor tier
        ∧ ((∃ e, charge window q now tier b? = (counted, .error e))
          ∨ ∃ nudge, Counters.nudges q tier (q.limitFor tier) counted = .ok nudge
            ∧ charge window q now tier b?
              = ({ counted with nudged := rolled.nudged || nudge },
                .ok ⟨true, q.limitFor tier, { counted with nudged := rolled.nudged || nudge },
                  nudge⟩)) := by
  intro rolled counted
  by_cases hlimit : q.limitFor tier ≤ rolled.count
  · exact Or.inl ⟨hlimit, charge_of_le hlimit⟩
  · refine Or.inr ⟨by omega, ?_⟩
    unfold charge
    dsimp only
    rw [if_neg hlimit]
    -- below the limit the request is counted before the mark is looked at
    cases hnudges : Counters.nudges q tier (q.limitFor tier) counted with
    | error e => exact Or.inl ⟨e, rfl⟩
    | ok nudge => exact Or.inr ⟨nudge, rfl, rfl⟩

/-- A charge keeps the window of the rolled bucket, and counts one request at most, which must be
below the limit. -/
theorem charge_keeps (window : Int) (q : Quota) (now : Int) (tier : Tier) (b? : Option Bucket) :
    let rolled := roll window now tier b?
    let charged := (charge window q now tier b?).1
    charged.windowStart = rolled.windowStart ∧ charged.tier = rolled.tier
      ∧ (charged.count = rolled.count
        ∨ charged.count = rolled.count + 1 ∧ rolled.count < q.limitFor tier) := by
  intro rolled charged
  -- denied, failed or admitted: only the count and the flag of the rolled bucket change
  obtain ⟨-, hcharge⟩ | ⟨hlimit, ⟨e, hcharge⟩ | ⟨nudge, -, hcharge⟩⟩ :=
    charge_cases window q now tier b?
  · simp only [charged, hcharge]
    exact ⟨rfl, rfl, Or.inl rfl⟩
  · simp only [charged, hcharge]
    exact ⟨rfl, rfl, Or.inr ⟨rfl, hlimit⟩⟩
  · simp only [charged, hcharge]
    exact ⟨rfl, rfl, Or.inr ⟨rfl, hlimit⟩⟩

theorem exists_verdict_charge (hq : q.HasMark) (window now : Int) (tier : Tier)
    (b? : Option Bucket) : ∃ v, (charge window q now tier b?).2 = .ok v := by
  unfold charge
  dsimp only
  split
  · exact ⟨_, rfl⟩
  · obtain ⟨nudge, hn⟩ := hq.nudges_eq tier
      { roll window now tier b? with count := (roll window now tier b?).count + 1 }
    rw [hn]
    exact ⟨_, rfl⟩

end Bucket

namespace Counters

/-- **A consume is a charge of one bucket.** -/
theorem consume_eq_charge (c : Counters) (q : Quota) (now : Int) (issuer : Json) (tier : Tier)
    (route : Text) :
    c.consume q now issuer tier route
      = (c.set issuer route (Bucket.charge c.window q now tier (c.get? issuer route)).1,
        (Bucket.charge c.window q now tier (c.get? issuer route)).2) := by
  -- the counters and the bucket roll over by the same comparison
  have hroll : c.current now tier (c.get? issuer route)
      = Bucket.roll c.window now tier (c.get? issuer route) := by
    unfold Bucket.roll
    cases c.get? issuer route with
    | none => rfl
    | some b =>
      have hlive : c.isLive now b = b.isLive c.window now := rfl
      by_cases hb : b.isLive c.window now = true <;> simp [current, hlive, hb, Option.filter]
  unfold consume Bucket.charge
  dsimp only
  rw [hroll]
  split
  · rfl
  · -- both sides ask for the same nudge
    generalize nudges q tier (q.limitFor tier) _ = nudge?
    cases nudge? with
    | error e => rfl
    | ok nudge => rfl

end Counters

end IssuerGate
