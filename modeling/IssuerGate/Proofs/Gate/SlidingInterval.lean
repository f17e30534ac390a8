import IssuerGate.Proofs.Gate.Run
import IssuerGate.Proofs.Limiter.SlidingInterval

/-!
# IssuerGate — how much a gate lets through in an interval

The bound of the limiter is about its own calls. At the gate an issuer shows up with any of its
keys, in any tier that the store gives it, and behind a cache. None of this gets it more: each
request that passes with a decision is an admitted request of the ledger.

* **`check_eq_decided`** — a check that passes with a decision has had it from the limiter.
* **`countP_passedIn_le_ledger`** — in each run, no more checks pass than the ledger admits.
* **`countP_passedIn_le`** — so an interval of one window length sees at most twice the larger limit
  pass, for each issuer and route.
-/

namespace IssuerGate.Gate

open Limiter (admittedIn decided?)

/-- Is this a check on the route, with a reading in the interval, that let an issuer of this id
through with a decision? Ids that read alike are taken for one, as the counters do. -/
def passedIn (issuer : Json) (route : Text) (a length : Int) : Call × Answer → Bool
  | (⟨now, .check _ _ path⟩, .checked (.ok x)) =>
    path = route && x.issuer.any (·.id.display = issuer.display) && x.decision.isSome
      && decide (a ≤ now) && decide (now < a + length)
  | _ => false

section Step

variable {ρ : Type} [Receiver ρ] {s : Gate × ρ}

/-! ## One check -/

/-- **A decision comes from the limiter**, for the issuer that the admission names. -/
theorem check_eq_decided {now : Int} {find : Text → Lookup} {key : Option Text} {route : Text}
    {x : Admission} {d : Decision} (hx : (s.1.check s.2 now find key route).outcome = .ok x)
    (hd : x.decision = some d) :
    ∃ i, s.1.issuer? now find key = some i ∧ x.issuer = some i
      ∧ (s.1.limiter.consume s.2 now i.id i.tier route).answer = .ok d ∧ d.allowed = true := by
  -- only a check that names an issuer has a decision to show
  cases hissuer : s.1.issuer? now find key with
  | none =>
    obtain ⟨directory, log, asked, outcome, hcheck, hunmetered⟩ :=
      check_of_issuer?_none hissuer s.2 route
    rw [hcheck] at hx
    rw [hunmetered x hx] at hd
    cases hd
  | some i =>
    obtain ⟨directory, log, asked, hcheck⟩ := check_of_issuer?_some hissuer s.2 route
    rw [hcheck] at hx
    obtain ⟨d', hanswer, hallowed, hi, hd'⟩ := answer_charge_eq_ok hx
    have hdd : d' = d := Option.some.inj (hd'.symm.trans hd)
    rw [hdd] at hanswer hallowed
    exact ⟨i, rfl, hi, hanswer, hallowed⟩

variable {issuer : Json} {route : Text} {a length : Int}

/-- What a passed check has asked of the limiter, and got. -/
theorem charged_of_passedIn {c : Call}
    (h : passedIn issuer route a length (c, (perform s c).answer) = true) :
    ∃ (i : Identity) (d : Decision), charged s c = [⟨c.now, .consume i.id i.tier route⟩]
      ∧ i.id.display = issuer.display
      ∧ (s.1.limiter.consume s.2 c.now i.id i.tier route).answer = .ok d ∧ d.allowed = true
      ∧ a ≤ c.now ∧ c.now < a + length := by
  obtain ⟨now, action⟩ := c
  cases action with
  | check find key path =>
    have hanswer : (perform s ⟨now, .check find key path⟩).answer
        = .checked (s.1.check s.2 now find key path).outcome := rfl
    rw [hanswer] at h
    -- what is counted is an admission with a decision, on the route and in the interval
    cases houtcome : (s.1.check s.2 now find key path).outcome with
    | error e =>
      rw [houtcome] at h
      cases h
    | ok x =>
      rw [houtcome] at h
      simp only [passedIn, Bool.and_eq_true, decide_eq_true_eq] at h
      obtain ⟨⟨⟨⟨rfl, hnamed⟩, hsome⟩, hfrom⟩, hto⟩ := h
      obtain ⟨d, hd⟩ := Option.isSome_iff_exists.mp hsome
      obtain ⟨i, hissuer, hi, hconsume, hallowed⟩ := check_eq_decided houtcome hd
      rw [hi] at hnamed
      refine ⟨i, d, ?_, by simpa using hnamed, hconsume, hallowed, hfrom, hto⟩
      unfold charged
      dsimp only
      rw [hissuer]
  | evict reading => cases h
  | limiter action => cases h

/-- A call of the gate passes no more than the limiter admits for it. -/
theorem passedIn_le_charged (issuer : Json) (route : Text) (a length : Int) (s : Gate × ρ)
    (c : Call) :
    (if passedIn issuer route a length (c, (perform s c).answer) then 1 else 0)
      ≤ (((Run.transcript Limiter.perform (meter s) (charged s c)).filterMap decided?).filter
          (·.1.key = bucketKey issuer route)).countP (admittedIn a length) := by
  by_cases hpassed : passedIn issuer route a length (c, (perform s c).answer) = true
  · obtain ⟨i, d, hcharged, hid, hconsume, hallowed, hfrom, hto⟩ := charged_of_passedIn hpassed
    -- the consume of the check is one line of the ledger, of the key that is counted
    let request : Counters.Request := ⟨c.now, i.id, i.tier, route⟩
    have hdecided : (Run.transcript Limiter.perform (meter s) (charged s c)).filterMap decided?
        = [(request, .ok d)] := by
      rw [hcharged]
      show [(request, (s.1.limiter.consume s.2 c.now i.id i.tier route).answer)] = _
      rw [hconsume]
    have hkey : request.key = bucketKey issuer route := by
      show i.id.display ++ _ = issuer.display ++ _
      rw [hid]
    have hadmitted : admittedIn a length (request, .ok d) = true := by
      simp [admittedIn, hallowed, request, hfrom, hto]
    rw [if_pos hpassed, hdecided, List.filter_cons_of_pos (by simpa using hkey),
      List.countP_cons_of_pos hadmitted]
    omega
  · rw [if_neg hpassed]
    omega

end Step

/-! ## Runs -/

section Runs

variable {ρ : Type} [Receiver ρ]

/-- **No more checks pass than the ledger admits.** Induction on the calls from the front, along
with the states that they leave. -/
theorem countP_passedIn_le_ledger (issuer : Json) (route : Text) (a length : Int) (s : Gate × ρ)
    (calls : List Call) :
    (Run.transcript perform s calls).countP (passedIn issuer route a length)
      ≤ (((Run.transcript Limiter.perform (meter s) (ledger s calls)).filterMap decided?).filter
          (·.1.key = bucketKey issuer route)).countP (admittedIn a length) := by
  induction calls generalizing s with
  | nil => exact Nat.zero_le _
  | cons c calls ih =>
    have hfirst := passedIn_le_charged issuer route a length s c
    have hrest := ih (perform s c).state
    -- both counts fall apart into that of the first call and that of the rest
    unfold ledger
    rw [Run.transcript_cons, List.countP_cons, Run.transcript_append, ← meter_perform,
      List.filterMap_append, List.filter_append, List.countP_append]
    omega

/-- **At most twice the larger limit passes**: for each issuer and route, so many checks in an
interval of one window length pass with a decision; and a decision with which a check passes is one
that allows it. -/
theorem countP_passedIn_le (directory : Directory) (q : Quota) (failOpen : Bool) (opened : Int)
    (r : ρ) {calls : List Call} (hclock : Run.Ordered Call.now calls) (issuer : Json) (route : Text)
    (a : Int) :
    let lines := Run.transcript perform (⟨directory, .start q none opened, failOpen⟩, r) calls
    (lines.countP (passedIn issuer route a (max 1 q.windowMs)) : Int)
        ≤ 2 * max 0 (max q.freeLimit q.paidLimit)
      ∧ ∀ line ∈ lines, ∀ x d, line.2 = .checked (.ok x) → x.decision = some d →
        d.allowed = true := by
  intro lines
  constructor
  -- each admission of the gate is one of the limiter, to which the bound is known
  · have hpassed := countP_passedIn_le_ledger issuer route a (max 1 q.windowMs)
      (⟨directory, .start q none opened, failOpen⟩, r) calls
    have hadmitted := Limiter.countP_admittedIn_le q opened r
      (ordered_ledger (s := (⟨directory, .start q none opened, failOpen⟩, r)) hclock) issuer route a
    unfold Quota.maxLimit at hadmitted
    exact Int.le_trans (Int.ofNat_le.mpr hpassed) hadmitted
  · apply Run.forall_mem_transcript
    intro s c x d hx hd
    obtain ⟨now, action⟩ := c
    cases action with
    | check find key path =>
      obtain ⟨i, -, -, -, hallowed⟩ := check_eq_decided (Answer.checked.inj hx) hd
      exact hallowed
    | evict reading => cases hx
    | limiter action => cases hx

end Runs

/-- The bound is met: a window that a free issuer without a limit opens is cut by the interval, after
the upgrade its one paid request falls inside, and so does that of the next window. -/
theorem countP_passedIn_le_of_upgrade :
    let q : Quota := { windowMs := 10, freeLimit := 0, paidLimit := 1 }
    let i : Json := .ofString "a"
    let route : Text := "/x"
    let found (tier : String) (_ : Text) : Lookup := ⟨[], .ok (some ⟨i, .ofString tier⟩), true⟩
    let calls : List Call :=
      [⟨0, .check (found "free") (some "k") route⟩, ⟨1, .check (found "paid") (some "k") route⟩,
        ⟨9, .check (found "paid") (some "l") route⟩, ⟨10, .check (found "paid") (some "l") route⟩]
    let lines := Run.transcript perform
      (⟨.start 0 (.ofInt 2) 60000 0, .start q none 0, false⟩, Listener.journal []) calls
    let passed := lines.countP (passedIn i route 1 (max 1 q.windowMs))
    Run.Ordered Call.now calls ∧ passed = 2 ∧ (passed : Int) ≤ 2 * max 0 (max q.freeLimit q.paidLimit)
    := by
  intro q i route found calls lines passed
  have hclock : Run.Ordered Call.now calls := by decide
  have hcount : passed = 2 := by decide
  have hbound := countP_passedIn_le (.start 0 (.ofInt 2) 60000 0) q false 0 (Listener.journal [])
    hclock i route 1
  exact ⟨hclock, hcount, hbound.1⟩

end IssuerGate.Gate
