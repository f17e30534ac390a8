import IssuerGate.Proofs.Counters.Fault
import IssuerGate.Proofs.Counters.Registers

/-!
# IssuerGate — buckets within a quota

A bucket never counts more than the larger limit, and its flag is set only by a request that brings
its count to the upgrade mark. This needs no clock: a bucket that is rolled over starts anew, and any
other one only ever counts further.

* **`Bucket.Within`** — what a bucket may hold under a quota. A charge keeps that, whether it gives a
  verdict or fails (`Within.charge`).
* **`within_after`** — so all buckets of a run are within its quota.
* **`Verdict.Fits`** — what a verdict says of the bucket that it leaves (`fits_of_charge`).
-/

namespace IssuerGate

/-- A nudge is called for by a count that has reached the mark. -/
theorem Counters.exists_mark_of_nudges {q : Quota} {tier : Tier} {b : Bucket}
    (h : Counters.nudges q tier (q.limitFor tier) b = .ok true) :
    ∃ mark, q.upgradeMark q.freeLimit = .ok mark ∧ mark ≤ b.count := by
  obtain ⟨rfl, hfresh⟩ := Counters.of_nudges h
  unfold Counters.nudges at h
  rw [if_pos ⟨rfl, hfresh⟩, Quota.limitFor] at h
  cases hmark : q.upgradeMark q.freeLimit with
  | error e =>
    rw [hmark] at h
    cases h
  | ok mark =>
    rw [hmark] at h
    exact ⟨mark, rfl, of_decide_eq_true (Except.ok.inj h)⟩

namespace Bucket

/-! ## One bucket -/

/-- A bucket counts no more than the larger limit, and at least one request and the upgrade mark if
its flag is set. -/
structure Within (q : Quota) (b : Bucket) : Prop where
  count_le : b.count ≤ q.maxLimit
  of_nudged : b.nudged = true →
    ∃ mark, q.upgradeMark q.freeLimit = .ok mark ∧ max 1 mark ≤ b.count

theorem within_fresh (q : Quota) (now : Int) (tier : Tier) : Within q ⟨now, 0, tier, false⟩ where
  count_le := q.maxLimit_nonneg
  of_nudged h := by cases h

variable {q : Quota} {b? : Option Bucket}

/-- A rolled bucket is within the quota if the one before was. -/
theorem within_roll (h : ∀ b, b? = some b → Within q b) (window now : Int) (tier : Tier) :
    Within q (roll window now tier b?) := by
  obtain ⟨b, hb, -, hroll⟩ | ⟨-, hroll⟩ := roll_cases window now tier b?
  · rw [hroll]
    exact h b hb
  · rw [hroll]
    exact within_fresh q now tier

/-- One request more keeps a bucket within the quota, if there is room for it. -/
theorem Within.counted {b : Bucket} (h : Within q b) {tier : Tier} (hroom : b.count < q.limitFor tier) :
    Within q b.counted where
  count_le := by
    have hlimit := q.limitFor_le_maxLimit tier
    show ((b.count + 1 : Nat) : Int) ≤ _
    omega
  of_nudged hnudged := by
    obtain ⟨mark, hmark, hle⟩ := h.of_nudged hnudged
    refine ⟨mark, hmark, ?_⟩
    show _ ≤ ((b.count + 1 : Nat) : Int)
    omega

/-- **A charge keeps a bucket within the quota.** -/
theorem within_charge (h : ∀ b, b? = some b → Within q b) (window now : Int) (tier : Tier) :
    Within q (charge window q now tier b?).1 := by
  have hrolled := within_roll h window now tier
  obtain ⟨-, hcharge⟩ | ⟨hroom, ⟨e, hcharge⟩ | ⟨nudge, hnudges, hcharge⟩⟩ :=
    charge_cases window q now tier b?
  · rw [hcharge]
    exact hrolled
  · rw [hcharge]
    exact hrolled.counted hroom
  · have hcounted := hrolled.counted hroom
    rw [hcharge]
    refine ⟨hcounted.count_le, fun hnudged => ?_⟩
    -- the flag was set before, or the request has just reached the mark
    cases nudge with
    | false => exact hcounted.of_nudged ((Bool.or_false _).symm.trans hnudged)
    | true =>
      obtain ⟨mark, hmark, hle⟩ := Counters.exists_mark_of_nudges hnudges
      refine ⟨mark, hmark, ?_⟩
      dsimp only at hle ⊢
      omega

end Bucket

namespace Counters

/-! ## One verdict -/

/-- What a verdict says of the bucket that it shows: an admitted request is counted in it within the
limit, a denied one has found it full and left it as it was rolled over. -/
structure Verdict.Fits (q : Quota) (tier : Tier) (rolled : Bucket) (v : Verdict) : Prop where
  limit_eq : v.limit = q.limitFor tier
  of_allowed : v.allowed = true → 1 ≤ v.bucket.count ∧ v.bucket.count ≤ v.limit
  of_denied : v.allowed = false → v.limit ≤ v.bucket.count ∧ v.bucket = rolled

/-- **A verdict shows the bucket that is left, and fits it.** -/
theorem fits_of_charge {window : Int} {q : Quota} {now : Int} {tier : Tier} {b? : Option Bucket}
    {v : Verdict} (h : (Bucket.charge window q now tier b?).2 = .ok v) :
    v.bucket = (Bucket.charge window q now tier b?).1
      ∧ v.Fits q tier (Bucket.roll window now tier b?) := by
  -- denied at the limit, failed without a verdict, or admitted below it
  obtain ⟨hfull, hcharge⟩ | ⟨hroom, ⟨e, hcharge⟩ | ⟨nudge, -, hcharge⟩⟩ :=
    Bucket.charge_cases window q now tier b?
  · rw [hcharge] at h ⊢
    cases h
    exact ⟨rfl, rfl, nofun, fun _ => ⟨hfull, rfl⟩⟩
  · rw [hcharge] at h
    cases h
  · rw [hcharge] at h ⊢
    cases h
    refine ⟨rfl, rfl, fun _ => ?_, nofun⟩
    dsimp only
    omega

/-! ## All buckets -/

theorem exists_of_get? {c : Counters} {issuer : Json} {route : Text} {b : Bucket}
    (h : c.get? issuer route = some b) :
    ∃ s ∈ c.slots, s.key = bucketKey issuer route ∧ s.bucket = b := by
  obtain ⟨s, hs, hbucket⟩ := Option.map_eq_some_iff.mp h
  exact ⟨s, List.mem_of_find?_eq_some hs, by simpa using List.find?_some hs, hbucket⟩

/-- Each call keeps all buckets within the quota: a consume writes one such bucket, and the others
write none. -/
theorem within_perform {q : Quota} {c : Counters} (h : ∀ s ∈ c.slots, s.bucket.Within q)
    (call : Call) : ∀ s ∈ (perform q c call).state.slots, s.bucket.Within q := by
  obtain ⟨now, action⟩ := call
  cases action with
  | consume issuer tier route =>
    intro s hs
    rw [show (perform q c ⟨now, .consume issuer tier route⟩).state
        = (c.consume q now issuer tier route).1 from rfl, consume_eq_charge] at hs
    -- a slot after the consume has the charged bucket or is an old one
    rcases mem_setSlot hs with ⟨-, hown⟩ | hold
    · rw [hown]
      refine Bucket.within_charge (fun b hb => ?_) c.window now tier
      obtain ⟨t, ht, -, rfl⟩ := exists_of_get? hb
      exact h t ht
    · exact h s hold
  | sweep => exact fun s hs => h s (mem_slots_sweep.mp hs).1
  | snapshot => exact h
  | get issuer route => exact h

/-- **All buckets of a run are within its quota**, whatever the clock does and whichever consumes
fail. -/
theorem within_after (q : Quota) (ms : Int) (calls : List Call) :
    ∀ s ∈ (Run.after (perform q) (ofWindow ms) calls).slots, s.bucket.Within q :=
  Run.after_invariant (fun c : Counters => ∀ s ∈ c.slots, s.bucket.Within q)
    (fun _ call h => within_perform h call) (fun _ hs => by cases hs) calls

theorem distinctKeys_after (q : Quota) (ms : Int) (calls : List Call) :
    (Run.after (perform q) (ofWindow ms) calls).DistinctKeys :=
  Run.after_invariant DistinctKeys (fun _ call h => h.perform q call) (distinctKeys_ofWindow ms) calls

end Counters

end IssuerGate
