import IssuerGate.Proofs.Limiter.Run

/-!
# IssuerGate — how much a limiter admits in an interval

Windows start with requests, so an interval of one window length may cut two of them. It never cuts
three: a window that starts inside the interval lasts beyond its end. So an interval admits at most
twice the larger limit for each key, wherever it starts.

* **`Spread`** — the invariant of a lane: how many requests of the interval have been admitted, by
  where the current window started. A window from before the interval holds all of them; one from
  inside it holds all but one window's worth.
* **`Spread.charge`** — each request keeps it. **`spread_lane`** — so each lane has it.
* **`countP_admittedIn_le`** — the bound, for the requests of one key in each run of a limiter.
-/

namespace IssuerGate.Limiter

open Counters

/-- Is this a request with a reading in the interval that was admitted? -/
def admittedIn (a length : Int) : Request × Except Binary64.Fault Decision → Bool
  | (x, .ok d) => d.allowed && decide (a ≤ x.now) && decide (x.now < a + length)
  | (_, .error _) => false

/-! ## The invariant of a lane -/

/-- How many requests of an interval a lane has admitted up to a reading of the clock, given its
bucket and the larger limit `most`. -/
structure Spread (a length most : Int) (b? : Option Bucket) (clock : Int) (admitted : Nat) : Prop
    where
  le_twice : admitted ≤ 2 * most
  of_early : clock < a → admitted = 0
  of_none : b? = none → admitted = 0
  start_le : ∀ b, b? = some b → b.windowStart ≤ clock
  count_le : ∀ b, b? = some b → b.count ≤ most
  of_start_before : ∀ b, b? = some b → b.windowStart < a → admitted ≤ b.count
  of_start_inside : ∀ b, b? = some b → b.windowStart < a + length → admitted ≤ most + b.count

variable {a length most clock now : Int} {q : Quota} {b? : Option Bucket} {admitted : Nat}

/-- Before any request nothing was admitted, and no bucket is there. -/
theorem spread_nil (hmost : 0 ≤ most) : Spread a length most none clock 0 := by
  constructor
  · show (0 : Int) ≤ 2 * most
    omega
  · exact fun _ => rfl
  · exact fun _ => rfl
  all_goals
    intro b hb
    cases hb

/-- What a charge does to the start and the count of a rolled bucket, and what it adds to the
requests of the interval that are admitted. -/
theorem charge_admittedIn (a : Int) (x : Request) {rolled : Bucket}
    (hrolled : Bucket.roll length x.now x.tier b? = rolled)
    {charged : Bucket × Except Binary64.Fault Verdict}
    (hcharged : Bucket.charge length q x.now x.tier b? = charged) {added : Nat}
    (hadded : (if admittedIn a length (x, charged.2.map (decision length)) then 1 else 0) = added) :
    charged.1.windowStart = rolled.windowStart
      ∧ (charged.1.count = rolled.count ∧ added = 0
        ∨ charged.1.count = rolled.count + 1 ∧ (rolled.count : Int) < q.limitFor x.tier
          ∧ (added = 0 ∨ added = 1 ∧ a ≤ x.now ∧ x.now < a + length)) := by
  subst hrolled hcharged hadded
  -- below the limit the bucket counts the request, be it decided within the interval or not
  by_cases hlimit : ((Bucket.roll length x.now x.tier b?).count : Int) < q.limitFor x.tier
  · obtain ⟨hstart, hcount, -⟩ := Bucket.charge_of_lt hlimit
    refine ⟨hstart, Or.inr ⟨hcount, hlimit, ?_⟩⟩
    cases (Bucket.charge length q x.now x.tier b?).2 with
    | error e => exact Or.inl rfl
    | ok v =>
      by_cases hin : admittedIn a length (x, .ok (decision length v)) = true
      · have hinside := hin
        simp only [admittedIn, Bool.and_eq_true, decide_eq_true_eq] at hinside
        exact Or.inr ⟨if_pos hin, hinside.1.2, hinside.2⟩
      · exact Or.inl (if_neg hin)
  · rw [Bucket.charge_of_le (by omega)]
    exact ⟨rfl, Or.inl ⟨rfl, rfl⟩⟩

/-- **Each request keeps the invariant.** The split is by the window in which the request falls: the
current one, or a new one, which can start inside the interval only after one that did not. -/
theorem Spread.charge (h : Spread a length most b? clock admitted) {x : Request}
    (hclock : clock ≤ x.now) (hmost : q.limitFor x.tier ≤ most) (hpos : 0 ≤ most) :
    Spread a length most (some (Bucket.charge length q x.now x.tier b?).1) x.now
      (admitted + if admittedIn a length
        (x, (Bucket.charge length q x.now x.tier b?).2.map (decision length)) then 1 else 0) := by
  generalize hcharged : Bucket.charge length q x.now x.tier b? = charged
  generalize hadded :
    (if admittedIn a length (x, charged.2.map (decision length)) then 1 else 0) = added
  have htwice := h.le_twice
  have hearly := h.of_early
  rcases Bucket.roll_cases length x.now x.tier b? with ⟨b, hb, hlive, hroll⟩ | ⟨hold, hroll⟩
  · -- the current window goes on
    obtain ⟨hstart, hcount⟩ := charge_admittedIn a x hroll hcharged hadded
    have hle := h.start_le b hb
    have hfew := h.count_le b hb
    have hbefore := h.of_start_before b hb
    have hinside := h.of_start_inside b hb
    constructor
    · omega
    · omega
    · intro hnone
      cases hnone
    all_goals
      intro b' hb'
      cases hb'
      omega
  · -- a new window starts: if inside the interval, the elapsed one started before it
    have hprior : x.now < a + length → admitted ≤ most := by
      intro hnow
      cases b? with
      | none =>
        have hnone := h.of_none rfl
        omega
      | some b =>
        have helapsed := hold b rfl
        have hfew := h.count_le b rfl
        have hbefore := h.of_start_before b rfl
        omega
    obtain ⟨hstart, hcount⟩ := charge_admittedIn a x hroll hcharged hadded
    dsimp only at hstart hcount
    constructor
    · omega
    · omega
    · intro hnone
      cases hnone
    all_goals
      intro b' hb'
      cases hb'
      omega

/-- What was admitted so far stays bounded as the clock goes on. -/
theorem Spread.later (h : Spread a length most b? clock admitted) {later : Int}
    (hle : clock ≤ later) : Spread a length most b? later admitted where
  le_twice := h.le_twice
  of_early hlater := h.of_early (by omega)
  of_none := h.of_none
  start_le b hb := by
    have hstart := h.start_le b hb
    omega
  count_le := h.count_le
  of_start_before := h.of_start_before
  of_start_inside := h.of_start_inside

/-- **Each lane has the invariant**, at each reading that is not before its requests. -/
theorem spread_lane (a length : Int) (q : Quota) {xs : List Request}
    (hclock : Run.Ordered Request.now xs) {clock : Int} (hle : ∀ x ∈ xs, x.now ≤ clock) :
    Spread a length q.maxLimit (lane length q xs) clock
      (((Run.transcript (laneStep length q) none xs).map
        (fun line => (line.1, line.2.map (decision length)))).countP (admittedIn a length)) := by
  induction xs using List.reverseRecOn generalizing clock with
  | nil => exact spread_nil q.maxLimit_nonneg
  | append_singleton xs x ih =>
    rw [Run.ordered_concat] at hclock
    have hstep := (ih hclock.1 hclock.2).charge (Int.le_refl x.now) (q.limitFor_le_maxLimit x.tier)
      q.maxLimit_nonneg
    rw [lane_concat, Run.transcript_concat, List.map_append, List.countP_append, List.map_singleton,
      List.countP_singleton]
    exact hstep.later (hle x (by simp))

/-! ## Runs -/

/-- **At most twice the larger limit**: so many requests of one key are admitted in an interval of
one window length. -/
theorem countP_admittedIn_le {ρ : Type} [Receiver ρ] (q : Quota) (opened : Int) (r : ρ)
    {calls : List Call} (hclock : Run.Ordered Call.now calls) (issuer : Json) (route : Text)
    (a : Int) :
    (((Run.transcript perform (start q none opened, r) calls).filterMap decided?).filter
        (·.1.key = bucketKey issuer route)).countP (admittedIn a (max 1 q.windowMs))
      ≤ 2 * q.maxLimit := by
  have hlane : Run.Ordered Request.now (ofKey (bucketKey issuer route) (requests calls)) :=
    (ordered_requests hclock).filter _
  obtain ⟨clock, hle⟩ := Run.exists_reading_ge Request.now
    (ofKey (bucketKey issuer route) (requests calls))
  rw [decisions_eq_lane q opened r hclock]
  exact (spread_lane a (max 1 q.windowMs) q hlane hle).le_twice

end IssuerGate.Limiter
