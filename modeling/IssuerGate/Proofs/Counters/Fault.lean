import IssuerGate.Proofs.Counters.Charge

/-!
# IssuerGate — requests whose upgrade mark is undefined

The upgrade mark of a limit is a product in doubles, rounded down, and there may be none: the limit
may be beyond all doubles, and the product infinite or not a number. A consume that needs the mark
fails then. It has opened or rolled over its bucket and counted the request by that time, and takes
nothing of it back:

* **`consume_eq_error_iff`** — which consumes fail: those of free issuers below their limit, not
  nudged yet in the window.
* **`consume_of_fault`** — what a failed consume leaves: the counted bucket, and so never the
  counters that it found.
-/

namespace IssuerGate

/-! ## One bucket -/

namespace Bucket

variable {window : Int} {q : Quota} {now : Int} {tier : Tier} {b? : Option Bucket}

/-- The bucket with one request more in its window. -/
def counted (b : Bucket) : Bucket := { b with count := b.count + 1 }

/-- A charge fails if and only if the request is admitted and needs a mark that does not exist. -/
theorem charge_eq_error_iff {e : Binary64.Fault} :
    (charge window q now tier b?).2 = .error e
      ↔ tier = .free ∧ (roll window now tier b?).count < q.freeLimit
        ∧ (roll window now tier b?).nudged = false ∧ q.upgradeMark q.freeLimit = .error e := by
  unfold charge
  generalize roll window now tier b? = b
  dsimp only
  -- at the limit nothing can fail
  by_cases hlimit : q.limitFor tier ≤ b.count
  · rw [if_pos hlimit]
    constructor
    · intro h
      cases h
    · rintro ⟨htier, hlt, -, -⟩
      rw [htier, Quota.limitFor] at hlimit
      omega
  · rw [if_neg hlimit]
    unfold Counters.nudges
    -- below it, only the mark can, and it is asked for once in a window of a free issuer
    by_cases hneeded : tier = .free ∧ b.nudged = false
    · obtain ⟨rfl, hnudged⟩ := hneeded
      have hlt : b.count < q.freeLimit := by
        rw [Quota.limitFor] at hlimit
        omega
      rw [if_pos ⟨rfl, hnudged⟩, Quota.limitFor]
      cases hmark : q.upgradeMark q.freeLimit with
      | error f => simp [Except.map, hlt, hnudged]
      | ok mark => simp [Except.map]
    · rw [if_neg hneeded]
      constructor
      · intro h
        cases h
      · rintro ⟨htier, -, hnudged, -⟩
        exact absurd ⟨htier, hnudged⟩ hneeded

/-- A charge that fails has counted the request. -/
theorem charge_of_fault {e : Binary64.Fault} (h : (charge window q now tier b?).2 = .error e) :
    (charge window q now tier b?).1 = (roll window now tier b?).counted := by
  unfold charge at h ⊢
  dsimp only at h ⊢
  split at h
  · cases h
  · next hlimit =>
    rw [if_neg hlimit]
    split at h
    · rfl
    · cases h

/-- A counted bucket is not the one that was found: either it counts one more, or it has opened a
window that the found one did not. -/
theorem counted_roll_ne (hwindow : 1 ≤ window) (now : Int) (tier : Tier) (b? : Option Bucket) :
    b? ≠ some (roll window now tier b?).counted := by
  intro hb
  -- the count of a running bucket changes, and the start of a new one is later
  rcases roll_cases window now tier b? with ⟨b, hsome, -, hroll⟩ | ⟨hold, hroll⟩
  · rw [hroll, hsome] at hb
    have hcount : b.count = b.count + 1 := congrArg Bucket.count (Option.some.inj hb)
    omega
  · have hle := hold _ hb
    have hstart : (roll window now tier b?).counted.windowStart = now := by
      rw [hroll]
      rfl
    omega

end Bucket

/-! ## All buckets -/

namespace Counters

variable {c : Counters} {q : Quota} {now : Int} {issuer : Json} {tier : Tier} {route : Text}
  {e : Binary64.Fault}

/-- The bucket in which a request counts. -/
def bucketFor (c : Counters) (now : Int) (issuer : Json) (tier : Tier) (route : Text) : Bucket :=
  Bucket.roll c.window now tier (c.get? issuer route)

/-- **Which consumes fail**: those of free issuers that are below their limit and not nudged yet,
while the mark of the limit does not exist. -/
theorem consume_eq_error_iff :
    (c.consume q now issuer tier route).2 = .error e
      ↔ tier = .free ∧ (c.bucketFor now issuer tier route).count < q.freeLimit
        ∧ (c.bucketFor now issuer tier route).nudged = false
        ∧ q.upgradeMark q.freeLimit = .error e := by
  rw [consume_eq_charge]
  exact Bucket.charge_eq_error_iff

/-- A consume that fails has stored the bucket with its request counted. -/
theorem state_consume_of_fault (h : (c.consume q now issuer tier route).2 = .error e) :
    (c.consume q now issuer tier route).1
      = c.set issuer route (c.bucketFor now issuer tier route).counted := by
  rw [consume_eq_charge] at h ⊢
  rw [Bucket.charge_of_fault h]
  rfl

/-- **A failed consume has spent the request.** Its bucket is stored with the request counted, in
the window that ran or in a new one; no other bucket changes; and the counters are not what they
were. -/
theorem consume_of_fault (h : (c.consume q now issuer tier route).2 = .error e) :
    let after := (c.consume q now issuer tier route).1
    after.get? issuer route = some (c.bucketFor now issuer tier route).counted
      ∧ (∀ other path, bucketKey other path ≠ bucketKey issuer route →
        after.get? other path = c.get? other path)
      ∧ after ≠ c := by
  intro after
  have hafter : after = c.set issuer route (c.bucketFor now issuer tier route).counted :=
    state_consume_of_fault h
  have hown : after.get? issuer route = some (c.bucketFor now issuer tier route).counted := by
    rw [hafter, get?_set]
  -- its own key shows the count, and the others are not touched
  refine ⟨hown, fun other path hne => ?_, fun hsame => ?_⟩
  · rw [hafter, get?_set_of_ne c hne]
  · rw [hsame] at hown
    exact Bucket.counted_roll_ne c.one_le_window now tier (c.get? issuer route) hown

/-- A quota whose threshold is not a number, so that no limit has a mark. -/
def markless : Quota := { freeLimit := 5, upgradeThreshold := .nan false }

/-- A threshold that is no number: the consume fails, and the request is counted. -/
theorem consume_of_fault_of_nan :
    ((ofWindow 1000).consume markless 0 (.ofString "a") .free "/x").2 = .error .notANumber
      ∧ ((ofWindow 1000).consume markless 0 (.ofString "a") .free "/x").1.get? (.ofString "a") "/x"
        = some ⟨0, 1, .free, false⟩ := by
  have hfault : ((ofWindow 1000).consume markless 0 (.ofString "a") .free "/x").2
      = .error .notANumber := rfl
  exact ⟨hfault, (consume_of_fault hfault).1⟩

/-- So a consume that fails has not left the counters as they were. -/
theorem consume_not_atomic :
    ¬ ∀ (c : Counters) (q : Quota) (now : Int) (issuer : Json) (tier : Tier) (route : Text)
      (e : Binary64.Fault), (c.consume q now issuer tier route).2 = .error e →
        (c.consume q now issuer tier route).1 = c := by
  intro hatomic
  have hfault : ((ofWindow 1000).consume markless 0 (.ofString "a") .free "/x").2
      = .error .notANumber := rfl
  have hsame := congrArg Counters.size (hatomic _ _ _ _ _ _ _ hfault)
  have hopened : ((ofWindow 1000).consume markless 0 (.ofString "a") .free "/x").1.size = 1 := by
    decide
  rw [hopened] at hsame
  cases hsame

end Counters

end IssuerGate
