import IssuerGate.Proofs.Binary64.Quotient
import IssuerGate.Proofs.Gate.Metering
import IssuerGate.Proofs.Limiter.Undisturbed

/-!
# IssuerGate — when to come back

A request that is refused for its quota is told a number of seconds. They are computed in doubles,
from the reset of the window that turned the request away.

* **`retrySeconds?_spec`** — they are the milliseconds until the reset, rounded up to whole seconds,
  unless the reset is many thousand years ahead.
* **`isWritable_of_ofDecision`** — they are never too long to be written, nor is any other number that
  the headers of a decision show.
* **`of_refuses_exceeded`** — who is refused: a resolved issuer, whose consume was denied, with the
  seconds until the reset of that decision.
* **`live?_after_of_denied`** — the bucket that turned the request away stays full until that reset,
  and counts for nothing from then on, whatever the gate does for others in the meantime.
* **`retryAfter_of_run`** — so a client that waits as told is admitted, and one that comes back
  before the reset is not.
-/

namespace IssuerGate

/-! ## Seconds -/

namespace QuotaHeaders

/-- **The seconds until a reset are rounded up.** -/
theorem retrySeconds?_spec {resetAt now : Int} (hahead : now < resetAt)
    (hnear : resetAt - now < 2 ^ 52) :
    ∃ seconds, retrySeconds? resetAt now = some seconds ∧ 1 ≤ seconds
      ∧ resetAt - now ≤ 1000 * seconds ∧ 1000 * seconds < resetAt - now + 1000 := by
  obtain ⟨n, hn⟩ : ∃ n : Nat, resetAt - now = n := ⟨(resetAt - now).toNat, by omega⟩
  rw [hn] at hnear ⊢
  -- the whole seconds that end strictly before the reset
  let c := (n - 1) / 1000
  have hceil : (Binary64.divInt? n (1000 : Nat)).bind Binary64.ceil? = some ((c : Int) + 1) :=
    Binary64.ceil?_divInt? (by omega) (by decide) (by decide) (by omega) (by omega)
  obtain ⟨x, hx, hxceil⟩ := Option.bind_eq_some_iff.mp hceil
  refine ⟨(c : Int) + 1, ?_, by omega, by omega, by omega⟩
  have hleast : max ((c : Int) + 1) 1 = (c : Int) + 1 := by omega
  unfold retrySeconds?
  rw [hn, hx]
  show some (max (x.ceil?.getD 0) 1) = _
  rw [hxceil, Option.getD_some, hleast]

/-- The seconds until a reset can always be written: they are in the range of doubles. -/
theorem isWritable_of_retrySeconds? {resetAt now seconds : Int}
    (h : retrySeconds? resetAt now = some seconds) : Text.isWritable seconds = true := by
  obtain ⟨x, hx, rfl⟩ := Option.map_eq_some_iff.mp h
  -- a delay is less than two to the 54 and the greatest exponent, and hence so many digits
  have hroom (a b : Nat) : 1 ≤ 2 ^ a * 2 ^ b ∧ 2 ^ a * 2 ^ b ≤ 10 ^ (a + b) := by
    rw [← Nat.pow_add]
    exact ⟨Nat.one_le_two_pow, Nat.pow_le_pow_left (by decide) _⟩
  obtain ⟨hone, hten⟩ := hroom 54 Binary64.maxExponent.toNat
  refine Text.isWritable_of_lt (Nat.succ_pos (54 + Binary64.maxExponent.toNat)) (by decide) ?_
  rw [Nat.pow_eq, Nat.succ_eq_add_one, Nat.pow_succ]
  cases hc : x.ceil? with
  | none =>
    rw [Option.getD_none]
    omega
  | some c =>
    have hbound := Binary64.natAbs_ceil?_divInt?_le (by decide : 0 < 1000)
      (Option.bind_eq_some_iff.mpr ⟨x, hx, hc⟩)
    rw [Option.getD_some]
    omega

/-- **All numbers of the headers of a decision can be written.** -/
theorem isWritable_of_ofDecision {d : Decision} {now : Int} {h : QuotaHeaders}
    (hd : ofDecision d now = .ok h) :
    ∀ i ∈ [h.limit, h.remaining, h.reset] ++ h.retryAfter.toList, Text.isWritable i = true := by
  intro i hi
  -- three numbers are checked on the way, and the delay is small enough by itself
  rcases List.mem_append.mp hi with hshown | hdelay
  · exact List.all_eq_true.mp h.writable i hshown
  · rcases ofDecision_cases d now with ⟨hw, -, hok⟩ | ⟨hw, -, seconds, hseconds, hok⟩ | hfault | hfault
    · obtain rfl := Except.ok.inj (hok.symm.trans hd)
      cases hdelay
    · obtain rfl := Except.ok.inj (hok.symm.trans hd)
      rw [List.mem_singleton.mp hdelay]
      exact isWritable_of_retrySeconds? hseconds
    · cases hfault.symm.trans hd
    · cases hfault.symm.trans hd

/-- The headers that tell a client when to come back. -/
theorem filter_retryAfter_pairs (h : QuotaHeaders) :
    h.pairs.filter (·.1 = ("Retry-After" : Text))
      = (h.retryAfter.map fun s => (("Retry-After" : Text), Text.ofInt s)).toList := by
  unfold pairs
  cases h.retryAfter <;> rfl

end QuotaHeaders

namespace Gate

open Counters (distinctKeys_ofWindow)

variable {ρ : Type} [Receiver ρ] {g : Gate} {r : ρ} {now : Int} {find : Text → Lookup}
  {key : Option Text} {route : Text}

/-! ## Refusals -/

/-- Nothing else is refused with this status. -/
theorem exists_exceeded_of_refuses {outcome : Except Denial Admission} (h : Refuses 429 outcome) :
    ∃ headers, outcome = .error (.exceeded headers) := by
  obtain ⟨denial, refusal, houtcome, hrefusal, hstatus⟩ := h
  cases denial with
  | exceeded headers => exact ⟨headers, houtcome⟩
  | unavailable =>
    rw [← Option.some.inj hrefusal] at hstatus
    cases hstatus
  | unknownKey =>
    rw [← Option.some.inj hrefusal] at hstatus
    cases hstatus
  | fault f => cases hrefusal

/-- **Who is refused for a quota**: a resolved issuer whose consume was denied. -/
theorem of_refuses_exceeded (h : Refuses 429 (g.check r now find key route).outcome) :
    ∃ i d seconds, ∃ hw : d.isWritable = true, g.issuer? now find key = some i
      ∧ (g.limiter.consume r now i.id i.tier route).answer = .ok d ∧ d.allowed = false
      ∧ QuotaHeaders.retrySeconds? d.resetAt now = some seconds
      ∧ (g.check r now find key route).outcome
        = .error (.exceeded (.ofWritable d hw (some seconds))) := by
  obtain ⟨headers, houtcome⟩ := exists_exceeded_of_refuses h
  cases hissuer : g.issuer? now find key with
  | none => exact absurd houtcome (ne_exceeded_of_issuer?_none hissuer r route headers)
  | some i =>
    obtain ⟨directory, log, asked, hcheck⟩ := check_of_issuer?_some hissuer r route
    rw [hcheck] at houtcome ⊢
    obtain ⟨d, seconds, hw, hconsume, hdenied, hseconds, hheaders⟩ :=
      answer_charge_eq_exceeded houtcome
    rw [hheaders] at houtcome
    exact ⟨i, d, seconds, hw, rfl, hconsume, hdenied, hseconds, houtcome⟩

/-! ## Coming back -/

/-- A run that, up to a reading, makes no request of the bucket of an issuer and a route. -/
structure LeavesAlone (s : Gate × ρ) (issuer : Json) (route : Text) (now : Int)
    (calls : List Call) : Prop where
  until_now : ∀ c ∈ calls, c.now ≤ now
  not_charged : ∀ x ∈ Limiter.requests (ledger s calls), x.key ≠ bucketKey issuer route

/-- What the limiter of a gate answers to a request after a run. -/
def answerAfter (s : Gate × ρ) (calls : List Call) (now : Int) (issuer : Json) (tier : Tier)
    (route : Text) : Except Binary64.Fault Decision :=
  let t := Run.after perform s calls
  (t.1.limiter.consume t.2 now issuer tier route).answer

theorem distinctKeys_after {s : Gate × ρ} (h : s.1.limiter.counters.DistinctKeys)
    (calls : List Call) : (Run.after perform s calls).1.limiter.counters.DistinctKeys := by
  have hmeter := Limiter.distinctKeys_after (s := meter s) h (ledger s calls)
  rw [← meter_after] at hmeter
  exact hmeter

/-- A run that leaves an issuer and a route alone leaves what is running for them. -/
theorem live?_after_of_leavesAlone {s : Gate × ρ} (hs : s.1.limiter.counters.DistinctKeys)
    {issuer : Json} {calls : List Call} (h : LeavesAlone s issuer route now calls) :
    (Run.after perform s calls).1.limiter.live? now issuer route
      = s.1.limiter.live? now issuer route := by
  have hle : ∀ l ∈ ledger s calls, l.now ≤ now := by
    intro l hl
    obtain ⟨c, hc, hnow⟩ := exists_of_mem_ledger hl
    rw [hnow]
    exact h.until_now c hc
  have hlive := Limiter.live?_after_of_ne (s := meter s) hs h.not_charged hle
  rw [← meter_after] at hlive
  exact hlive

/-- What is left of a limiter after the charge in a check. -/
theorem meter_check {i : Identity} (h : g.issuer? now find key = some i) (r : ρ) (route : Text) :
    meter ((g.check r now find key route).gate, (g.check r now find key route).receiver)
      = (g.limiter.consume r now i.id i.tier route).state := by
  obtain ⟨directory, log, asked, hcheck⟩ := check_of_issuer?_some h r route
  rw [hcheck]
  dsimp only
  rw [state_charge]
  rfl

/-- **After a denial the bucket of the request stays full until the reset**, and is gone from then
on, as long as nothing else is charged on it. -/
theorem live?_after_of_denied {s : Gate × ρ} (hs : s.1.limiter.counters.DistinctKeys)
    {i : Identity} (hissuer : s.1.issuer? now find key = some i) {d : Decision}
    (hconsume : (s.1.limiter.consume s.2 now i.id i.tier route).answer = .ok d)
    (hdenied : d.allowed = false) :
    now < d.resetAt
      ∧ ∀ m later,
        let x := s.1.check s.2 now find key route
        LeavesAlone (x.gate, x.receiver) i.id route m later →
          let t := Run.after perform (x.gate, x.receiver) later
          (d.resetAt ≤ m → t.1.limiter.live? m i.id route = none)
            ∧ (m < d.resetAt → ∃ b, t.1.limiter.live? m i.id route = some b
              ∧ s.1.limiter.quota.limitFor i.tier ≤ b.count) := by
  obtain ⟨b, hget, hlive, hfull, hreset⟩ := Limiter.live?_of_denied hconsume hdenied
  have hrunning : now - b.windowStart < s.1.limiter.window := of_decide_eq_true hlive
  refine ⟨by omega, fun m later => ?_⟩
  intro x halone t
  have hx : x.gate.limiter.counters.DistinctKeys :=
    distinctKeys_after hs [⟨now, .check find key route⟩]
  have hlimiter : x.gate.limiter = (s.1.limiter.consume s.2 now i.id i.tier route).state.1 :=
    congrArg Prod.fst (meter_check hissuer s.2 route)
  -- left alone, the bucket of the denial stays while its window runs, to its reset
  have hkept : t.1.limiter.live? m i.id route
      = (some b).filter (Bucket.isLive s.1.limiter.window m) := by
    rw [live?_after_of_leavesAlone hx halone]
    unfold Limiter.live?
    rw [hlimiter, hget, Limiter.window_consume]
  rw [hkept]
  constructor
  · intro hlate
    have hover : b.isLive s.1.limiter.window m = false := by
      apply decide_eq_false
      omega
    simp [Option.filter, hover]
  · intro hearly
    have hstill : b.isLive s.1.limiter.window m = true := by
      apply decide_eq_true
      omega
    exact ⟨b, Option.filter_some_pos hstill, hfull⟩

/-- **The delay that a refused client is told is the one it has to wait.** A check is refused for a
quota in any state that a run reaches, at any reading of the clock, with a reset less than `2 ^ 52`
milliseconds ahead. The header and the detail of the refusal give the same number of seconds, which
is the time until the reset rounded up. As long as nothing else is charged on the bucket, a request
is admitted from then on, if its tier has a limit and a mark, and one of the same tier is denied
until the reset. -/
theorem retryAfter_of_run (directory : Directory) (q : Quota) (failOpen : Bool) (opened : Int)
    (r : ρ) (past : List Call) (now : Int) (find : Text → Lookup) (key : Option Text) (route : Text) :
    let s := Run.after perform (⟨directory, .start q none opened, failOpen⟩, r) past
    let x := s.1.check s.2 now find key route
    Refuses 429 x.outcome →
      ∃ i d, s.1.issuer? now find key = some i
        ∧ (s.1.limiter.consume s.2 now i.id i.tier route).answer = .ok d ∧ d.allowed = false
        ∧ (d.resetAt - now < 2 ^ 52 →
          ∃ denial refusal seconds, x.outcome = .error denial ∧ denial.refusal? = some refusal
            ∧ refusal.headers.filter (·.1 = ("Retry-After" : Text))
              = [(("Retry-After" : Text), Text.ofInt seconds)]
            ∧ refusal.detail.member? "retry_after_seconds" = some (.int seconds)
            ∧ 1 ≤ seconds ∧ d.resetAt - now ≤ 1000 * seconds
            ∧ 1000 * seconds < d.resetAt - now + 1000
            ∧ ∀ later m, LeavesAlone (x.gate, x.receiver) i.id route m later →
              (now + 1000 * seconds ≤ m → ∀ tier, 1 ≤ q.limitFor tier →
                  (tier = .free → ∃ mark, q.upgradeMark q.freeLimit = .ok mark) →
                  ∃ e, answerAfter (x.gate, x.receiver) later m i.id tier route = .ok e
                    ∧ e.allowed = true)
                ∧ (m < d.resetAt →
                  ∃ e, answerAfter (x.gate, x.receiver) later m i.id i.tier route = .ok e
                    ∧ e.allowed = false)) := by
  intro s x hrefused
  obtain ⟨i, d, seconds, hw, hissuer, hconsume, hdenied, hseconds, houtcome⟩ :=
    of_refuses_exceeded hrefused
  refine ⟨i, d, hissuer, hconsume, hdenied, fun hnear => ?_⟩
  have hstart : (Limiter.start q none opened).counters.DistinctKeys := distinctKeys_ofWindow q.windowMs
  have hdistinct : s.1.limiter.counters.DistinctKeys := distinctKeys_after hstart past
  have hsettings : s.1.limiter.quota = q :=
    (settings_after (⟨directory, .start q none opened, failOpen⟩, r) past).2
  obtain ⟨hahead, hlater⟩ := live?_after_of_denied hdistinct hissuer hconsume hdenied
  obtain ⟨rounded, hrounded, hone, hcover, htight⟩ := QuotaHeaders.retrySeconds?_spec hahead hnear
  obtain rfl : seconds = rounded := Option.some.inj (hseconds.symm.trans hrounded)
  refine ⟨_, _, seconds, houtcome, rfl, QuotaHeaders.filter_retryAfter_pairs _, rfl, hone, hcover,
    htight, fun later m halone => ?_⟩
  obtain ⟨hgone, hfull⟩ := hlater m later halone
  -- the check and what follows it are more calls of the run
  let t := Run.after perform (x.gate, x.receiver) later
  have hafter : t.1.limiter.counters.DistinctKeys :=
    distinctKeys_after (distinctKeys_after hdistinct [⟨now, .check find key route⟩]) later
  have hquota : t.1.limiter.quota = q :=
    ((settings_after (x.gate, x.receiver) later).2.trans
      (quota_perform s ⟨now, .check find key route⟩)).trans hsettings
  constructor
  · intro hlate tier hlimit hmark
    rw [← hquota] at hlimit hmark
    exact Limiter.allowed_of_live?_none hafter (hgone (by omega)) hlimit hmark t.2
  · intro hearly
    obtain ⟨b, hlive, hcount⟩ := hfull hearly
    rw [hsettings, ← hquota] at hcount
    exact Limiter.denied_of_live? hafter hlive hcount t.2

/-- A client that is refused after the clock went back, and comes back before the reset and in time,
while another issuer is charged and the buckets are swept. -/
theorem retryAfter_of_run_of_backward_clock :
    let q : Quota := { windowMs := 1500, freeLimit := 1 }
    let find (_ : Text) : Lookup := ⟨[], .ok (some ⟨.ofString "a", .ofString "free"⟩), true⟩
    let past : List Call := [⟨1000, .limiter (.consume (.ofString "a") .free "/x")⟩]
    let later (now : Int) : List Call :=
      [⟨now, .limiter (.consume (.ofString "b") .free "/x")⟩, ⟨now, .limiter .sweep⟩]
    let s := Run.after perform
      (⟨.start 300000 (.ofInt 2) 60000 0, .start q none 0, true⟩, Listener.journal []) past
    let x := s.1.check s.2 400 find (some "k") "/x"
    let next (now : Int) :=
      answerAfter (x.gate, x.receiver) (later now) now (.ofString "a") .free "/x"
    Refuses 429 x.outcome
      ∧ (∃ denial refusal, x.outcome = .error denial ∧ denial.refusal? = some refusal
        ∧ refusal.headers.filter (·.1 = ("Retry-After" : Text)) = [(("Retry-After" : Text), ("3" : Text))])
      ∧ (∃ e, next 2499 = .ok e ∧ e.allowed = false)
      ∧ ∃ e, next 3400 = .ok e ∧ e.allowed = true := by
  intro q find past later s x next
  have hmark : q.HasMark := by decide
  have hissuer : s.1.issuer? 400 find (some "k") = some ⟨.ofString "a", .free⟩ := by rfl
  have hconsume : (s.1.limiter.consume s.2 400 (.ofString "a") .free "/x").answer
      = .ok ⟨false, 1, 0, 2500⟩ := by decide
  have hresolved : (s.1.directory.resolve 400 find "k").answer.outcome
      = .ok (some ⟨.ofString "a", .free⟩) := by rfl
  have hrefused : Refuses 429 x.outcome :=
    (outcome_of_consumed (k := "k") (by decide) hresolved hconsume).2.1 (by decide) rfl (by decide)
  obtain ⟨i, d, hi, hd, -, hspec⟩ := retryAfter_of_run (.start 300000 (.ofInt 2) 60000 0) q true 0
    (Listener.journal []) past 400 find (some "k") "/x" hrefused
  have hi' : i = ⟨.ofString "a", .free⟩ := Option.some.inj (hi.symm.trans hissuer)
  rw [hi'] at hd hspec
  have hd' : d = ⟨false, 1, 0, 2500⟩ := Except.ok.inj (hd.symm.trans hconsume)
  rw [hd'] at hspec
  obtain ⟨denial, refusal, seconds, houtcome, hrefusal, hheaders, -, -, hcover, htight, hlater⟩ :=
    hspec (by decide)
  -- the reset lies 2100 milliseconds ahead, which makes three seconds
  have hseconds : seconds = 3 := by
    dsimp only at hcover htight
    omega
  rw [hseconds] at hheaders hlater
  have halone (now : Int) :
      LeavesAlone (x.gate, x.receiver) (.ofString "a") "/x" now (later now) := by
    constructor
    · intro c hc
      rcases List.mem_pair.mp hc with rfl | rfl <;> exact Int.le_refl now
    · intro y hy
      have hother : y = ⟨now, .ofString "b", .free, "/x"⟩ := List.mem_singleton.mp hy
      rw [hother]
      show bucketKey (.ofString "b") "/x" ≠ bucketKey (.ofString "a") "/x"
      decide
  refine ⟨hrefused, ⟨denial, refusal, houtcome, hrefusal, hheaders⟩, ?_, ?_⟩
  · exact (hlater (later 2499) 2499 (halone 2499)).2 (by decide)
  · exact (hlater (later 3400) 3400 (halone 3400)).1 (by decide) .free (by decide) fun _ =>
      hmark.upgradeMark_eq

end Gate

end IssuerGate
