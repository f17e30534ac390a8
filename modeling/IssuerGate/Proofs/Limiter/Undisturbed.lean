import IssuerGate.Proofs.Counters.Fault
import IssuerGate.Proofs.Limiter.Passage

/-!
# IssuerGate — buckets that are left alone

Between two requests of one key a limiter serves others, sweeps and reports. None of this counts in
the bucket of the key; at most the bucket is dropped, once its window has elapsed.

* **`get?_perform_of_ne`** — one call that is not about the key leaves its bucket or sweeps it away.
* **`live?_after_of_ne`** — so it is live after a run of such calls exactly if it was before. The
  readings of the run need no order among them; that none is later than the one in question is
  enough.
* **`answer_consume_eq`** — and being live is all that counts for the next request. It is admitted if
  no bucket is live (`allowed_of_live?_none`) and denied in one that is full (`denied_of_live?`).
-/

namespace IssuerGate

/-- The bucket in which a request counts is live at the request. -/
theorem Bucket.isLive_roll {window : Int} (h : 1 ≤ window) (now : Int) (tier : Tier)
    (b? : Option Bucket) : (roll window now tier b?).isLive window now = true := by
  obtain ⟨b, -, hlt, hroll⟩ | ⟨-, hroll⟩ := roll_cases window now tier b?
  · rw [hroll]
    exact decide_eq_true hlt
  · rw [hroll]
    show decide (now - now < window) = true
    rw [decide_eq_true_eq]
    omega

theorem Bucket.isLive_charge {window : Int} (h : 1 ≤ window) (q : Quota) (now : Int) (tier : Tier)
    (b? : Option Bucket) : (charge window q now tier b?).1.isLive window now = true := by
  obtain ⟨hstart, -, -⟩ := charge_keeps window q now tier b?
  have hrolled := isLive_roll h now tier b?
  unfold isLive at hrolled ⊢
  rw [hstart]
  exact hrolled

namespace Limiter

open Counters

section Step

variable {ρ : Type} [Receiver ρ]

/-- The bucket in which the requests of an issuer on a route count, while its window runs. -/
def live? (l : Limiter) (now : Int) (issuer : Json) (route : Text) : Option Bucket :=
  (l.counters.get? issuer route).filter (Bucket.isLive l.window now)

theorem isLive_of_live? {l : Limiter} {now : Int} {issuer : Json} {route : Text} {b : Bucket}
    (h : l.live? now issuer route = some b) : b.isLive l.window now = true := by
  obtain ⟨-, hlive⟩ := Option.filter_eq_some_iff.mp h
  exact hlive

/-- A request leaves the charged bucket of its key. -/
theorem get?_perform_of_request {s : Limiter × ρ} (h : s.1.counters.DistinctKeys) {c : Call}
    {x : Request} (hx : c.request? = some x) :
    (perform s c).state.1.counters.get? x.issuer x.route
      = some (Bucket.charge s.1.window s.1.quota x.now x.tier
          (s.1.counters.get? x.issuer x.route)).1 := by
  have hpassage := passage?_eq h c
  unfold passage? at hpassage
  rw [hx] at hpassage
  exact congrArg Passage.left (Option.some.inj hpassage)

/-- **A call about another key leaves a bucket as it is, or drops it in a sweep.** -/
theorem get?_perform_of_ne {s : Limiter × ρ} (h : s.1.counters.DistinctKeys) {c : Call}
    {issuer : Json} {route : Text} (hne : ∀ x, c.request? = some x → x.key ≠ bucketKey issuer route) :
    (perform s c).state.1.counters.get? issuer route = s.1.counters.get? issuer route
      ∨ (perform s c).state.1.counters.get? issuer route = s.1.live? c.now issuer route := by
  obtain ⟨now, action⟩ := c
  cases action with
  | consume i tier path =>
    have hother : bucketKey issuer route ≠ bucketKey i path :=
      fun heq => hne ⟨now, i, tier, path⟩ rfl heq.symm
    -- the charge is of another bucket, so only the sweep in front of it matters
    show (s.1.consume s.2 now i tier path).state.1.counters.get? issuer route = _
      ∨ (s.1.consume s.2 now i tier path).state.1.counters.get? issuer route = _
    rw [limiter_consume]
    dsimp only
    rw [consume_eq_charge, get?_set_of_ne _ hother]
    rcases sweepIfDue_cases s.1 now with hs | hs
    · rw [hs]
      exact Or.inl rfl
    · rw [hs]
      exact Or.inr (get?_sweep h now issuer route)
  | sweep => exact Or.inr (get?_sweep h now issuer route)
  | get i path => exact Or.inl rfl
  | usage => exact Or.inl rfl

/-- A call for another key leaves what is running under this one. -/
theorem live?_perform_of_ne {s : Limiter × ρ} (h : s.1.counters.DistinctKeys) {c : Call}
    {issuer : Json} {route : Text} (hne : ∀ x, c.request? = some x → x.key ≠ bucketKey issuer route)
    {now : Int} (hle : c.now ≤ now) :
    (perform s c).state.1.live? now issuer route = s.1.live? now issuer route := by
  unfold live?
  rw [window_perform]
  rcases get?_perform_of_ne h hne with hget | hget
  · rw [hget]
  · rw [hget]
    exact filter_isLive_of_le hle _

/-- **A run about other keys leaves a live bucket as it is.** -/
theorem live?_after_of_ne {s : Limiter × ρ} (h : s.1.counters.DistinctKeys) {calls : List Call}
    {issuer : Json} {route : Text}
    (hne : ∀ x ∈ requests calls, x.key ≠ bucketKey issuer route) {now : Int}
    (hle : ∀ c ∈ calls, c.now ≤ now) :
    (Run.after perform s calls).1.live? now issuer route = s.1.live? now issuer route := by
  -- no call before the time in question asks for the key or sweeps what is still running then
  induction calls generalizing s with
  | nil => rfl
  | cons c calls ih =>
    obtain ⟨hfirst, hrest⟩ := List.forall_mem_cons.mp hle
    have hown : ∀ x, c.request? = some x → x.key ≠ bucketKey issuer route := fun x hx =>
      hne x (List.mem_filterMap.mpr ⟨c, by simp, hx⟩)
    have hlater : ∀ x ∈ requests calls, x.key ≠ bucketKey issuer route := by
      intro x hx
      obtain ⟨d, hd, hdx⟩ := List.mem_filterMap.mp hx
      exact hne x (List.mem_filterMap.mpr ⟨d, List.mem_cons_of_mem c hd, hdx⟩)
    rw [Run.after_cons, ih (distinctKeys_perform h c) hlater hrest]
    exact live?_perform_of_ne h hown hfirst

/-! ## The next request -/

/-- A request is decided on its live bucket, whether the limiter sweeps first or not. -/
theorem answer_consume_eq {l : Limiter} (h : l.counters.DistinctKeys) (r : ρ) (now : Int)
    (issuer : Json) (tier : Tier) (route : Text) :
    (l.consume r now issuer tier route).answer
      = (Bucket.charge l.window l.quota now tier (l.live? now issuer route)).2.map
          (decision l.window) := by
  have hcharge := charge_sweepIfDue h l.quota now issuer tier route
  rw [answer_consume, consume_eq_charge, window_sweepIfDue]
  show (Bucket.charge l.window l.quota now tier _).2.map _ = _
  rw [hcharge]
  unfold live?
  rw [Bucket.charge_filter_isLive]

/-- In a new window a request is admitted, if anything is in its tier and its mark is known. -/
theorem allowed_of_live?_none {l : Limiter} (h : l.counters.DistinctKeys) {now : Int} {issuer : Json}
    {route : Text} (hlive : l.live? now issuer route = none) {tier : Tier}
    (hlimit : 1 ≤ l.quota.limitFor tier)
    (hmark : tier = .free → ∃ mark, l.quota.upgradeMark l.quota.freeLimit = .ok mark) (r : ρ) :
    ∃ d, (l.consume r now issuer tier route).answer = .ok d ∧ d.allowed = true := by
  rw [answer_consume_eq h, hlive]
  -- no bucket is running, so the request finds a new one with nothing counted
  have hfresh : Bucket.roll l.window now tier none = ⟨now, 0, tier, false⟩ := rfl
  obtain ⟨hdenied, -⟩ | ⟨-, ⟨e, hcharge⟩ | ⟨nudge, -, hcharge⟩⟩ :=
    Bucket.charge_cases l.window l.quota now tier none
  · rw [hfresh] at hdenied
    dsimp only at hdenied
    omega
  · -- only a free request can fail, and only for want of a mark
    have hfault : (Bucket.charge l.window l.quota now tier none).2 = .error e := by rw [hcharge]
    obtain ⟨htier, -, -, hnone⟩ := Bucket.charge_eq_error_iff.mp hfault
    obtain ⟨mark, hsome⟩ := hmark htier
    rw [hsome] at hnone
    cases hnone
  · rw [hcharge]
    exact ⟨_, rfl, rfl⟩

/-- In a window that has reached the limit of its tier a request is denied. -/
theorem denied_of_live? {l : Limiter} (h : l.counters.DistinctKeys) {now : Int} {issuer : Json}
    {route : Text} {b : Bucket} (hlive : l.live? now issuer route = some b) {tier : Tier}
    (hlimit : l.quota.limitFor tier ≤ b.count) (r : ρ) :
    ∃ d, (l.consume r now issuer tier route).answer = .ok d ∧ d.allowed = false := by
  have hroll : Bucket.roll l.window now tier (some b) = b := by
    simp [Bucket.roll, Option.filter, isLive_of_live? hlive]
  rw [answer_consume_eq h, hlive, Bucket.charge_of_le (by rw [hroll]; exact hlimit)]
  exact ⟨_, rfl, rfl⟩

/-- **A denied request leaves a live bucket at its limit**, which ends at the reset it is told. -/
theorem live?_of_denied {l : Limiter} {r : ρ} {now : Int} {issuer : Json} {tier : Tier}
    {route : Text} {d : Decision} (h : (l.consume r now issuer tier route).answer = .ok d)
    (hd : d.allowed = false) :
    ∃ b, (l.consume r now issuer tier route).state.1.counters.get? issuer route = some b
      ∧ b.isLive l.window now = true ∧ l.quota.limitFor tier ≤ b.count
      ∧ d.resetAt = b.windowStart + l.window := by
  let b? := (l.sweepIfDue now).state.counters.get? issuer route
  have hstate : (l.consume r now issuer tier route).state.1.counters.get? issuer route
      = some (Bucket.charge l.window l.quota now tier b?).1 := by
    rw [limiter_consume]
    dsimp only
    rw [consume_eq_charge, get?_set, window_sweepIfDue]
    rfl
  have hanswer : (Bucket.charge l.window l.quota now tier b?).2.map (decision l.window) = .ok d := by
    rw [answer_consume, consume_eq_charge, window_sweepIfDue] at h
    exact h
  -- the bucket stored is the one that the decision was made on
  rw [hstate]
  obtain ⟨hlimit, hcharge⟩ | ⟨-, ⟨e, hcharge⟩ | ⟨nudge, -, hcharge⟩⟩ :=
    Bucket.charge_cases l.window l.quota now tier b?
  · rw [hcharge] at hanswer ⊢
    refine ⟨_, rfl, Bucket.isLive_roll l.counters.one_le_window now tier b?, hlimit, ?_⟩
    rw [← Except.ok.inj hanswer]
    rfl
  · rw [hcharge] at hanswer
    cases hanswer
  · -- an admission is no denial
    rw [hcharge] at hanswer
    rw [← Except.ok.inj hanswer] at hd
    cases hd

end Step

end Limiter

end IssuerGate
