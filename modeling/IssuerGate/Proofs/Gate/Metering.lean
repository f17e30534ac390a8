import IssuerGate.Proofs.Directory.Resolve
import IssuerGate.Proofs.Gate.Run
import Mathlib.Algebra.Ring.Int.Defs

/-!
# IssuerGate — who is charged at the gate

A request is charged if and only if its key is resolved. On every other way through the gate the
limiter stays as it is, its buckets, its last sweep and the receiver behind it included, and a
charged request is charged once.

* **`outcome_of_consumed`** — what becomes of a charged request: it passes with the decision, or it
  is refused for its quota, or it fails because the decision has numbers too long to be written.
* **`charged_of_admitted`** — where the gate does not fail open, whoever passes with a key has been
  charged.
* **`check_of_run`** — both, with the ways that charge nobody, in each state that a gate can reach.
* **`check_without_answer`** — two checks that neither pass nor refuse, one uncharged and one charged.
-/

namespace IssuerGate.Gate

/-- Is a request turned away with a status? -/
def Refuses (status : Nat) (outcome : Except Denial Admission) : Prop :=
  ∃ denial refusal, outcome = .error denial ∧ denial.refusal? = some refusal
    ∧ refusal.status = status

/-- Are the limiter and the receiver behind it as they were before a check? -/
def Check.Spares {ρ : Type} (x : Check ρ) (g : Gate) (r : ρ) : Prop :=
  x.gate.limiter = g.limiter ∧ x.receiver = r

variable {ρ : Type} [Receiver ρ] {g : Gate} {r : ρ} {now : Int} {find : Text → Lookup}
  {key : Option Text} {route k : Text}

/-! ## Ways that charge nobody -/

/-- A check without a key spares the quota and goes on. -/
theorem spares_of_keyless (hkey : key.filter (· ≠ []) = none) :
    (g.check r now find key route).Spares g r
      ∧ (g.check r now find key route).outcome = .ok unmetered := by
  rw [check_of_keyless hkey]
  exact ⟨⟨rfl, rfl⟩, rfl⟩

/-- A check of an unknown key spares the quota and refuses by 401. -/
theorem spares_of_unknown (hkey : key.filter (· ≠ []) = some k)
    (h : (g.directory.resolve now find k).answer.outcome = .ok none) :
    (g.check r now find key route).Spares g r
      ∧ Refuses 401 (g.check r now find key route).outcome := by
  rw [check_of_unknown hkey h]
  exact ⟨⟨rfl, rfl⟩, _, _, rfl, rfl, rfl⟩

/-- A check that goes unanswered spares the quota, and goes on or refuses by 503. -/
theorem spares_of_unanswered (hkey : key.filter (· ≠ []) = some k) {e : LookupError}
    (h : (g.directory.resolve now find k).answer.outcome = .error (.unanswered e)) :
    (g.check r now find key route).Spares g r
      ∧ if g.failOpen then (g.check r now find key route).outcome = .ok unmetered
        else Refuses 503 (g.check r now find key route).outcome := by
  rw [check_of_unanswered hkey h]
  refine ⟨⟨rfl, rfl⟩, ?_⟩
  unfold unanswered
  cases g.failOpen with
  | true => rfl
  | false => exact ⟨_, _, rfl, rfl, rfl⟩

/-- A check at fault spares the quota, and only a time to wait that is too large below zero is at
fault. -/
theorem spares_of_fault (hkey : key.filter (· ≠ []) = some k) {f : Binary64.Fault}
    (h : (g.directory.resolve now find k).answer.outcome = .error (.number f)) :
    (g.check r now find key route).Spares g r
      ∧ (g.check r now find key route).outcome = .error (.fault (.number f))
      ∧ g.directory.patience = .beyond true := by
  rw [check_of_fault hkey h]
  exact ⟨⟨rfl, rfl⟩, rfl, Directory.resolve_eq_number h⟩

/-- A gate whose time for lookups is over at once and cannot be written fails over each key that is
not cached. -/
theorem check_of_impatient (hkey : key.filter (· ≠ []) = some k)
    (hp : g.directory.patience = .beyond true) {keyHash : Text}
    (hhash : ApiKey.hash k = .ok keyHash) (h : g.directory.cached? now k = none) :
    (g.check r now find key route).asked = false
      ∧ (g.check r now find key route).outcome = .error (.fault (.number .tooLarge)) := by
  have hanswer : (g.directory.resolve now find k).answer = ⟨false, .error (.number .tooLarge)⟩ :=
    Directory.answer_resolve_of_impatient hp hhash h
  rw [check_of_fault hkey (congrArg Directory.Resolution.outcome hanswer)]
  exact ⟨congrArg Directory.Resolution.asked hanswer, rfl⟩

/-! ## Resolved keys -/

/-- A check of a key that is resolved is metered as the one consume of its issuer. -/
theorem meter_of_resolved (hkey : key.filter (· ≠ []) = some k) {i : Identity}
    (h : (g.directory.resolve now find k).answer.outcome = .ok (some i)) :
    (g.check r now find key route).gate.limiter
        = (g.limiter.consume r now i.id i.tier route).state.1
      ∧ (g.check r now find key route).receiver
        = (g.limiter.consume r now i.id i.tier route).state.2 := by
  rw [check_of_resolved hkey h]
  dsimp only
  rw [state_charge]
  exact ⟨rfl, rfl⟩

/-- **A charged request passes with its decision or is refused for its quota**, unless the decision
has a number that cannot be written, which it fails for, or a delay beyond all doubles. -/
theorem outcome_of_consumed (hkey : key.filter (· ≠ []) = some k) {i : Identity}
    (h : (g.directory.resolve now find k).answer.outcome = .ok (some i)) {d : Decision}
    (hd : (g.limiter.consume r now i.id i.tier route).answer = .ok d) :
    (d.isWritable = true → d.allowed = true →
        ∃ headers, (g.check r now find key route).outcome = .ok ⟨some i, some d, some headers⟩)
      ∧ (d.isWritable = true → d.allowed = false →
        (QuotaHeaders.retrySeconds? d.resetAt now).isSome →
          Refuses 429 (g.check r now find key route).outcome)
      ∧ (d.isWritable = false →
        (g.check r now find key route).outcome = .error (.fault .unwritable)) := by
  rw [check_of_resolved hkey h]
  dsimp only
  -- the directory of the gate that is charged is another, but its limiter is the same
  let resolved : Gate := { g with directory := (g.directory.resolve now find k).state }
  have hconsume : (resolved.limiter.consume r now i.id i.tier route).answer = .ok d := hd
  refine ⟨fun hw hallowed => ?_, fun hw hdenied hdelay => ?_, fun hw => ?_⟩
  · exact ⟨.ofWritable d hw none, answer_charge_of_allowed hconsume hallowed hw⟩
  · obtain ⟨seconds, hseconds⟩ := Option.isSome_iff_exists.mp hdelay
    have hanswer := answer_charge_of_denied hconsume hdenied hw hseconds
    exact ⟨_, _, hanswer, rfl, rfl⟩
  · exact answer_charge_of_fault hconsume (QuotaHeaders.ofDecision_of_unwritable hw)

/-! ## Gates that do not fail open -/

/-- **Whoever passes with a key has been charged**, where the gate does not fail open. -/
theorem charged_of_admitted (hclosed : g.failOpen = false) (hkey : key.filter (· ≠ []) = some k)
    {x : Admission} (h : (g.check r now find key route).outcome = .ok x) :
    ∃ i d, (g.directory.resolve now find k).answer.outcome = .ok (some i)
      ∧ (g.limiter.consume r now i.id i.tier route).answer = .ok d ∧ d.allowed = true
      ∧ x.issuer = some i ∧ x.decision = some d := by
  -- only the last of the ways of a keyed request through a closed gate admits it
  cases hresolve : (g.directory.resolve now find k).answer.outcome with
  | error e =>
    cases e with
    | unanswered e =>
      rw [check_of_unanswered hkey hresolve] at h
      unfold unanswered at h
      rw [hclosed] at h
      cases h
    | number f =>
      rw [check_of_fault hkey hresolve] at h
      cases h
  | ok found =>
    cases found with
    | none =>
      rw [check_of_unknown hkey hresolve] at h
      cases h
    | some i =>
      rw [check_of_resolved hkey hresolve] at h
      obtain ⟨d, hd, hallowed, hissuer, hdecision⟩ := answer_charge_eq_ok h
      exact ⟨i, d, rfl, hd, hallowed, hissuer, hdecision⟩

/-! ## Runs -/

/-- **A request is charged if and only if its key is resolved**, in each state that a run reaches. A
request without a key passes uncharged; with an unknown one it is refused; without an answer it
passes uncharged or is refused, as the gate is set; with a resolved key it is charged once, and gets
the decision if its numbers can be written. Where they cannot, the check fails and the charge stands.
It also fails, uncharged, where the time allowed for a lookup is negative beyond all doubles. -/
theorem check_of_run (directory : Directory) (q : Quota) (hmark : q.HasMark) (failOpen : Bool)
    (opened : Int) (r : ρ) (past : List Call) (now : Int) (find : Text → Lookup)
    (key : Option Text) (route : Text) :
    let s := Run.after perform (⟨directory, .start q none opened, failOpen⟩, r) past
    let x := s.1.check s.2 now find key route
    let resolution (k : Text) := (s.1.directory.resolve now find k).answer.outcome
    let consumed (i : Identity) := s.1.limiter.consume s.2 now i.id i.tier route
    (key = none ∨ key = some [] → x.Spares s.1 s.2 ∧ x.outcome = .ok unmetered)
      ∧ ∀ k, key = some k → k ≠ [] →
        (resolution k = .ok none → x.Spares s.1 s.2 ∧ Refuses 401 x.outcome)
        ∧ (∀ e, resolution k = .error (.unanswered e) →
          x.Spares s.1 s.2
            ∧ if failOpen then x.outcome = .ok unmetered else Refuses 503 x.outcome)
        ∧ (∀ f, resolution k = .error (.number f) →
          x.Spares s.1 s.2 ∧ x.outcome = .error (.fault (.number f))
            ∧ s.1.directory.patience = .beyond true)
        ∧ (∀ i, resolution k = .ok (some i) →
          (x.gate.limiter = (consumed i).state.1 ∧ x.receiver = (consumed i).state.2)
            ∧ ∃ d, (consumed i).answer = .ok d
              ∧ (d.isWritable = true → d.allowed = true →
                ∃ headers, x.outcome = .ok ⟨some i, some d, some headers⟩)
              ∧ (d.isWritable = true → d.allowed = false →
                (QuotaHeaders.retrySeconds? d.resetAt now).isSome → Refuses 429 x.outcome)
              ∧ (d.isWritable = false → x.outcome = .error (.fault .unwritable)))
        ∧ (failOpen = false → ∀ a, x.outcome = .ok a →
          ∃ i d, resolution k = .ok (some i) ∧ (consumed i).answer = .ok d ∧ d.allowed = true
            ∧ a.issuer = some i ∧ a.decision = some d) := by
  intro s x resolution consumed
  obtain ⟨hopen, hquota⟩ : s.1.failOpen = failOpen ∧ s.1.limiter.quota = q :=
    settings_after (⟨directory, .start q none opened, failOpen⟩, r) past
  constructor
  · intro habsent
    apply spares_of_keyless
    rcases habsent with rfl | rfl <;> rfl
  · intro k hk hne
    have hkey : key.filter (· ≠ []) = some k := by
      rw [hk]
      simp [Option.filter, hne]
    refine ⟨spares_of_unknown hkey, fun e he => ?_, fun f => spares_of_fault hkey, fun i hi => ?_,
      fun hclosed a => charged_of_admitted (hopen.trans hclosed) hkey⟩
    · rw [← hopen]
      exact spares_of_unanswered hkey he
    -- the quota has stayed the one with the mark, so there is a decision
    · rw [← hquota] at hmark
      obtain ⟨d, hd⟩ := Limiter.exists_decision_consume hmark s.2 now i.id i.tier route
      exact ⟨meter_of_resolved hkey hi, d, hd, outcome_of_consumed hkey hi hd⟩

/-- A keyed request of an issuer whose quota is used up is charged, denied and refused. -/
theorem check_of_run_of_exceeded :
    let q : Quota := { windowMs := 10, freeLimit := 1 }
    let find (_ : Text) : Lookup := ⟨[], .ok (some ⟨.ofString "a", .ofString "free"⟩), true⟩
    let past : List Call := [⟨0, .limiter (.consume (.ofString "a") .free "/x")⟩]
    let s := Run.after perform
      (⟨.start 300000 (.ofInt 2) 60000 0, .start q none 0, false⟩, Listener.journal []) past
    q.HasMark
      ∧ (s.1.limiter.consume s.2 5 (.ofString "a") .free "/x").answer = .ok ⟨false, 1, 0, 10⟩
      ∧ Refuses 429 (s.1.check s.2 5 find (some "k") "/x").outcome := by
  intro q find past s
  have hmark : q.HasMark := by decide
  have hconsumed : (s.1.limiter.consume s.2 5 (.ofString "a") .free "/x").answer
      = .ok ⟨false, 1, 0, 10⟩ := by decide
  have hresolved : (s.1.directory.resolve 5 find "k").answer.outcome
      = .ok (some ⟨.ofString "a", .free⟩) := by rfl
  obtain ⟨-, -, -, hcharged, -⟩ := (check_of_run (.start 300000 (.ofInt 2) 60000 0) q hmark false 0
    (Listener.journal []) past 5 find (some "k") "/x").2 "k" rfl (by decide)
  obtain ⟨-, d, hd, -, hdenied, -⟩ := hcharged ⟨.ofString "a", .free⟩ hresolved
  -- the quota of one request was used up before
  have hd' : d = ⟨false, 1, 0, 10⟩ := Except.ok.inj (hd.symm.trans hconsumed)
  rw [hd'] at hdenied
  exact ⟨hmark, hconsumed, hdenied (by decide) rfl (by decide)⟩

/-! ## Settings without an answer

Two settings beyond all reason: a time for lookups that is negative and below all doubles, and a
limit of 4301 digits. -/

/-- **Not every keyed request is admitted or refused as its lookup says.** The first gate fails open,
and its lookup is out of time before the store is asked; the second has resolved the key of a paid
issuer and charged it. Both fail. -/
theorem check_without_answer :
    let i : Identity := ⟨.ofString "a", .paid⟩
    let find (_ : Text) : Lookup := ⟨[], .ok (some ⟨i.id, .ofString "paid"⟩), true⟩
    let q : Quota := { windowMs := 10, paidLimit := 10 ^ 4300 }
    let impatient : Gate := ⟨.start 300000 (.ofInt (-10 ^ 400)) 60000 0, .start {} none 0, true⟩
    let generous : Gate := ⟨.start 300000 (.ofInt 2) 60000 0, .start q none 0, true⟩
    let x := impatient.check (Listener.journal []) 0 find (some "k") "/r"
    let y := generous.check (Listener.journal []) 0 find (some "k") "/r"
    (x.asked = false ∧ x.outcome = .error (.fault (.number .tooLarge)))
      ∧ q.HasMark ∧ generous.issuer? 0 find (some "k") = some i
      ∧ (generous.limiter.consume (Listener.journal []) 0 i.id i.tier "/r").answer
        = .ok ⟨true, 10 ^ 4300, 10 ^ 4300 - 1, 10⟩
      ∧ y.outcome = .error (.fault .unwritable) := by
  intro i find q impatient generous x y
  have hhash : ApiKey.hash "k" = .ok (ApiKey.digest "k") :=
    ApiKey.hash_eq_ok_iff.mpr ⟨by decide, rfl⟩
  -- the one waits for a time below all doubles, the other has a limit of 4301 digits
  have hfailed : x.asked = false ∧ x.outcome = .error (.fault (.number .tooLarge)) :=
    check_of_impatient (k := "k") (by decide) (by decide +kernel) hhash (Directory.cached?_start ..)
  have hresolved : (generous.directory.resolve 0 find "k").answer.outcome = .ok (some i) := by rfl
  have hconsumed : (generous.limiter.consume (Listener.journal []) 0 i.id i.tier "/r").answer
      = .ok ⟨true, 10 ^ 4300, 10 ^ 4300 - 1, 10⟩ := by decide +kernel
  exact ⟨hfailed, by decide, by rfl, hconsumed,
    (outcome_of_consumed (k := "k") (by decide) hresolved hconsumed).2.2 (by decide +kernel)⟩

end IssuerGate.Gate
