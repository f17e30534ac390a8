import IssuerGate.Gate
import IssuerGate.Proofs.Limiter.Run

/-!
# IssuerGate — what one check does

`Gate.check` has five ways out, and on four of them it does not touch the limiter or the receiver
behind it. This module gives one equation for each:

* **`check_of_keyless`** — no key, or an empty one.
* **`check_of_unknown`**, **`check_of_unanswered`**, **`check_of_fault`** — a key that is not
  resolved: no active issuer, no answer, or a time that is no number to write.
* **`check_of_resolved`** — a key that is resolved: the check is the charge of its issuer.
* **`answer_charge_of_allowed`**, **`answer_charge_of_denied`**, **`answer_charge_of_fault`** — what a
  charge answers; **`answer_charge_cases`** — and no more than these once the consume has decided.

Over runs two ways are enough, by whether there is an issuer to charge (`issuer?`):

* **`check_of_issuer?_none`** — without one, nothing of the limiter is touched and nobody is named.
* **`check_of_issuer?_some`** — with one, the check is its charge.
-/

namespace IssuerGate

/-! ## The headers of a decision -/

namespace QuotaHeaders

variable {d : Decision} {now : Int}

/-- An admission that can be written has headers without a delay. -/
theorem ofDecision_of_allowed (hd : d.allowed = true) (hw : d.isWritable = true) :
    ofDecision d now = .ok (ofWritable d hw none) := by
  unfold ofDecision
  rw [dif_pos hw, if_pos hd]

/-- A denial that can be written has headers with the delay, if that can be told. -/
theorem ofDecision_of_denied (hd : d.allowed = false) (hw : d.isWritable = true) {seconds : Int}
    (hseconds : retrySeconds? d.resetAt now = some seconds) :
    ofDecision d now = .ok (ofWritable d hw (some seconds)) := by
  unfold ofDecision
  rw [dif_pos hw, hd, if_neg (by decide), hseconds]

/-- A delay beyond all doubles is a fault. -/
theorem ofDecision_of_endless (hd : d.allowed = false) (hw : d.isWritable = true)
    (hseconds : retrySeconds? d.resetAt now = none) :
    ofDecision d now = .error .retryTooLarge := by
  unfold ofDecision
  rw [dif_pos hw, hd, if_neg (by decide), hseconds]

/-- A number with too many digits is a fault, also of a decision that allows its request. -/
theorem ofDecision_of_unwritable (hw : d.isWritable = false) :
    ofDecision d now = .error .unwritable := by
  unfold ofDecision
  rw [dif_neg (by rw [hw]; decide)]

/-- **A decision has headers, those of an allowed request or those of a denied one**, unless a number
cannot be written or the delay is beyond all doubles. -/
theorem ofDecision_cases (d : Decision) (now : Int) :
    (∃ hw : d.isWritable = true, d.allowed = true ∧ ofDecision d now = .ok (ofWritable d hw none))
      ∨ (∃ hw : d.isWritable = true, d.allowed = false ∧ ∃ seconds,
        retrySeconds? d.resetAt now = some seconds
          ∧ ofDecision d now = .ok (ofWritable d hw (some seconds)))
      ∨ ofDecision d now = .error .unwritable
      ∨ ofDecision d now = .error .retryTooLarge := by
  by_cases hw : d.isWritable = true
  · cases hd : d.allowed with
    | true => exact .inl ⟨hw, rfl, ofDecision_of_allowed hd hw⟩
    | false =>
      cases hseconds : retrySeconds? d.resetAt now with
      | none => exact .inr (.inr (.inr (ofDecision_of_endless hd hw hseconds)))
      | some seconds =>
        exact .inr (.inl ⟨hw, rfl, seconds, rfl, ofDecision_of_denied hd hw hseconds⟩)
  · exact .inr (.inr (.inl (ofDecision_of_unwritable (eq_false_of_ne_true hw))))

end QuotaHeaders

namespace Gate

variable {ρ : Type} [Receiver ρ] {g : Gate} {r : ρ} {now : Int} {find : Text → Lookup}
  {key : Option Text} {route k : Text}

/-! ## Without an issuer -/

/-- Without a key nobody is asked for, and the request goes on unmetered. -/
theorem check_of_keyless (h : key.filter (· ≠ []) = none) :
    g.check r now find key route = ⟨g, r, [], false, .ok unmetered⟩ := by
  unfold check
  rw [h]

/-- An unknown key is denied, and the directory has asked for it. -/
theorem check_of_unknown (hkey : key.filter (· ≠ []) = some k)
    (h : (g.directory.resolve now find k).answer.outcome = .ok none) :
    g.check r now find key route
      = ⟨{ g with directory := (g.directory.resolve now find k).state }, r,
        (g.directory.resolve now find k).log, (g.directory.resolve now find k).answer.asked,
        .error .unknownKey⟩ := by
  unfold check
  rw [hkey]
  dsimp only
  rw [h]

/-- A key that goes unanswered passes unmetered or is denied, as the gate was told to do. -/
theorem check_of_unanswered (hkey : key.filter (· ≠ []) = some k) {e : LookupError}
    (h : (g.directory.resolve now find k).answer.outcome = .error (.unanswered e)) :
    g.check r now find key route
      = ⟨{ g with directory := (g.directory.resolve now find k).state }, r,
        (g.directory.resolve now find k).log ++ (unanswered g.failOpen route).1,
        (g.directory.resolve now find k).answer.asked, (unanswered g.failOpen route).2⟩ := by
  unfold check
  rw [hkey]
  dsimp only
  rw [h]

/-- A fault of the directory is the outcome, whatever the gate was told to do. -/
theorem check_of_fault (hkey : key.filter (· ≠ []) = some k) {f : Binary64.Fault}
    (h : (g.directory.resolve now find k).answer.outcome = .error (.number f)) :
    g.check r now find key route
      = ⟨{ g with directory := (g.directory.resolve now find k).state }, r,
        (g.directory.resolve now find k).log, (g.directory.resolve now find k).answer.asked,
        .error (.fault (.number f))⟩ := by
  unfold check
  rw [hkey]
  dsimp only
  rw [h]

/-! ## With an issuer -/

/-- A key of an issuer is charged to it. -/
theorem check_of_resolved (hkey : key.filter (· ≠ []) = some k) {i : Identity}
    (h : (g.directory.resolve now find k).answer.outcome = .ok (some i)) :
    let x := g.directory.resolve now find k
    let c := charge { g with directory := x.state } r now i route
    g.check r now find key route
      = ⟨c.state.1, c.state.2, x.log ++ c.log, x.answer.asked, c.answer⟩ := by
  unfold check
  rw [hkey]
  dsimp only
  rw [h]

/-- Whatever a charge answers, it has made one consume. -/
theorem state_charge (g : Gate) (r : ρ) (now : Int) (i : Identity) (route : Text) :
    (g.charge r now i route).state
      = ({ g with limiter := (g.limiter.consume r now i.id i.tier route).state.1 },
        (g.limiter.consume r now i.id i.tier route).state.2) := by
  unfold charge
  dsimp only
  split
  · rfl
  · split
    · rfl
    · split <;> rfl

/-- A charge that is allowed is admitted with its issuer, its decision and its headers, if the
numbers of the decision can be written. -/
theorem answer_charge_of_allowed {i : Identity} {d : Decision}
    (h : (g.limiter.consume r now i.id i.tier route).answer = .ok d) (hd : d.allowed = true)
    (hw : d.isWritable = true) :
    (g.charge r now i route).answer
      = .ok ⟨some i, some d, some (.ofWritable d hw none)⟩ := by
  unfold charge
  dsimp only
  rw [h]
  dsimp only
  rw [QuotaHeaders.ofDecision_of_allowed hd hw]
  dsimp only
  rw [if_pos hd]

/-- A charge that is denied shows its headers too, with the seconds to wait. -/
theorem answer_charge_of_denied {i : Identity} {d : Decision} {seconds : Int}
    (h : (g.limiter.consume r now i.id i.tier route).answer = .ok d) (hd : d.allowed = false)
    (hw : d.isWritable = true)
    (hseconds : QuotaHeaders.retrySeconds? d.resetAt now = some seconds) :
    (g.charge r now i route).answer
      = .error (.exceeded (.ofWritable d hw (some seconds))) := by
  unfold charge
  dsimp only
  rw [h]
  dsimp only
  rw [QuotaHeaders.ofDecision_of_denied hd hw hseconds]
  dsimp only
  rw [hd, if_neg (by decide)]

/-- A charge whose consume fails is denied by that fault. -/
theorem answer_charge_of_error {i : Identity} {e : Binary64.Fault}
    (h : (g.limiter.consume r now i.id i.tier route).answer = .error e) :
    (g.charge r now i route).answer = .error (.fault (.number e)) := by
  unfold charge
  dsimp only
  rw [h]

/-- Without headers a charge is a fault, whether it was allowed or denied. -/
theorem answer_charge_of_fault {i : Identity} {d : Decision} {f : Fault}
    (h : (g.limiter.consume r now i.id i.tier route).answer = .ok d)
    (hf : QuotaHeaders.ofDecision d now = .error f) :
    (g.charge r now i route).answer = .error (.fault f) := by
  unfold charge
  dsimp only
  rw [h]
  dsimp only
  rw [hf]

/-- **What a charge with a decision answers**: it admits or refuses, and shows the decision either
way, or it fails over the headers. -/
theorem answer_charge_cases {i : Identity} {d : Decision}
    (h : (g.limiter.consume r now i.id i.tier route).answer = .ok d) :
    (∃ hw : d.isWritable = true, d.allowed = true
        ∧ (g.charge r now i route).answer = .ok ⟨some i, some d, some (.ofWritable d hw none)⟩)
      ∨ (∃ hw : d.isWritable = true, d.allowed = false ∧ ∃ seconds,
        QuotaHeaders.retrySeconds? d.resetAt now = some seconds
          ∧ (g.charge r now i route).answer
            = .error (.exceeded (.ofWritable d hw (some seconds))))
      ∨ (g.charge r now i route).answer = .error (.fault .unwritable)
      ∨ (g.charge r now i route).answer = .error (.fault .retryTooLarge) := by
  rcases QuotaHeaders.ofDecision_cases d now with
    ⟨hw, hd, -⟩ | ⟨hw, hd, seconds, hseconds, -⟩ | hfault | hfault
  · exact .inl ⟨hw, hd, answer_charge_of_allowed h hd hw⟩
  · exact .inr (.inl ⟨hw, hd, seconds, hseconds, answer_charge_of_denied h hd hw hseconds⟩)
  · exact .inr (.inr (.inl (answer_charge_of_fault h hfault)))
  · exact .inr (.inr (.inr (answer_charge_of_fault h hfault)))

/-- An admitted charge names the issuer and an allowed decision. -/
theorem answer_charge_eq_ok {i : Identity} {a : Admission}
    (h : (g.charge r now i route).answer = .ok a) :
    ∃ d, (g.limiter.consume r now i.id i.tier route).answer = .ok d ∧ d.allowed = true
      ∧ a.issuer = some i ∧ a.decision = some d := by
  cases hconsume : (g.limiter.consume r now i.id i.tier route).answer with
  | error e => cases (answer_charge_of_error hconsume).symm.trans h
  | ok d =>
    rcases answer_charge_cases hconsume with
      ⟨hw, hd, hanswer⟩ | ⟨hw, -, seconds, -, hanswer⟩ | hanswer | hanswer
    · obtain rfl := Except.ok.inj (hanswer.symm.trans h)
      exact ⟨d, rfl, hd, rfl, rfl⟩
    -- a denial is an error, and so is a decision that is not shown
    · cases hanswer.symm.trans h
    · cases hanswer.symm.trans h
    · cases hanswer.symm.trans h

/-- A charge that says that a quota is exceeded was denied, and knows when the window ends. -/
theorem answer_charge_eq_exceeded {i : Identity} {headers : QuotaHeaders}
    (h : (g.charge r now i route).answer = .error (.exceeded headers)) :
    ∃ d seconds, ∃ hw : d.isWritable = true,
      (g.limiter.consume r now i.id i.tier route).answer = .ok d ∧ d.allowed = false
        ∧ QuotaHeaders.retrySeconds? d.resetAt now = some seconds
        ∧ headers = .ofWritable d hw (some seconds) := by
  cases hconsume : (g.limiter.consume r now i.id i.tier route).answer with
  | error e => cases (answer_charge_of_error hconsume).symm.trans h
  | ok d =>
    rcases answer_charge_cases hconsume with
      ⟨hw, -, hanswer⟩ | ⟨hw, hd, seconds, hseconds, hanswer⟩ | hanswer | hanswer
    · cases hanswer.symm.trans h
    · have hheaders := Denial.exceeded.inj (Except.error.inj (hanswer.symm.trans h))
      exact ⟨d, seconds, hw, rfl, hd, hseconds, hheaders.symm⟩
    · cases hanswer.symm.trans h
    · cases hanswer.symm.trans h

/-- A charge that fails for a number has had it from the limiter: the faults of the headers are
others. -/
theorem answer_charge_eq_number {i : Identity} {e : Binary64.Fault}
    (h : (g.charge r now i route).answer = .error (.fault (.number e))) :
    (g.limiter.consume r now i.id i.tier route).answer = .error e := by
  cases hconsume : (g.limiter.consume r now i.id i.tier route).answer with
  | error f =>
    cases (answer_charge_of_error hconsume).symm.trans h
    rfl
  | ok d =>
    -- once the consume decides, a fault can only be that of its answer
    rcases answer_charge_cases hconsume with
      ⟨hw, -, hanswer⟩ | ⟨hw, -, seconds, -, hanswer⟩ | hanswer | hanswer
    · cases hanswer.symm.trans h
    · cases hanswer.symm.trans h
    · cases hanswer.symm.trans h
    · cases hanswer.symm.trans h

/-- A check leaves of the directory what resolving its key leaves, if there is one. -/
theorem directory_check (g : Gate) (r : ρ) (now : Int) (find : Text → Lookup) (key : Option Text)
    (route : Text) :
    (g.check r now find key route).gate.directory
      = match key.filter (· ≠ []) with
        | none => g.directory
        | some k => (g.directory.resolve now find k).state := by
  -- the directory is asked for the key that is given, and the charge does not reach it
  cases hkey : key.filter (· ≠ []) with
  | none => rw [check_of_keyless hkey]
  | some k =>
    dsimp only
    cases hresolve : (g.directory.resolve now find k).answer.outcome with
    | error e =>
      cases e with
      | unanswered e => rw [check_of_unanswered hkey hresolve]
      | number f => rw [check_of_fault hkey hresolve]
    | ok found =>
      cases found with
      | none => rw [check_of_unknown hkey hresolve]
      | some i =>
        rw [check_of_resolved hkey hresolve]
        dsimp only
        rw [state_charge]

/-! ## By the issuer -/

/-- The issuer that a check charges: that of a key that is given and resolved. -/
def issuer? (g : Gate) (now : Int) (find : Text → Lookup) (key : Option Text) : Option Identity :=
  match key.filter (· ≠ []) with
  | none => none
  | some k =>
    match (g.directory.resolve now find k).answer.outcome with
    | .ok found => found
    | .error _ => none

theorem issuer?_of_keyless (h : key.filter (· ≠ []) = none) : g.issuer? now find key = none := by
  unfold issuer?
  rw [h]

/-- A key that is not resolved for an error names nobody. -/
theorem issuer?_of_error (hkey : key = some k) {e : Directory.Fault}
    (h : (g.directory.resolve now find k).answer.outcome = .error e) :
    g.issuer? now find key = none := by
  unfold issuer?
  by_cases hk : k = []
  · rw [hkey, hk]
    rfl
  · rw [hkey, Option.filter_some_pos (by simpa using hk)]
    dsimp only
    rw [h]

/-- **Without an issuer a check touches the directory alone**, and what it admits is unmetered. -/
theorem check_of_issuer?_none (h : g.issuer? now find key = none) (r : ρ) (route : Text) :
    ∃ directory log asked outcome,
      g.check r now find key route = ⟨{ g with directory := directory }, r, log, asked, outcome⟩
        ∧ ∀ a, outcome = .ok a → a = unmetered := by
  unfold issuer? at h
  cases hkey : key.filter (· ≠ []) with
  | none => exact ⟨_, _, _, _, check_of_keyless hkey, fun a ha => (Except.ok.inj ha).symm⟩
  | some k =>
    rw [hkey] at h
    dsimp only at h
    cases hresolve : (g.directory.resolve now find k).answer.outcome with
    | error e =>
      cases e with
      | unanswered e =>
        -- an open gate admits without a charge, a closed one does not admit
        refine ⟨_, _, _, _, check_of_unanswered hkey hresolve, fun a ha => ?_⟩
        unfold unanswered at ha
        split at ha
        · exact (Except.ok.inj ha).symm
        · cases ha
      | number f => exact ⟨_, _, _, _, check_of_fault hkey hresolve, fun a ha => by cases ha⟩
    | ok found =>
      rw [hresolve] at h
      cases h
      exact ⟨_, _, _, _, check_of_unknown hkey hresolve, fun a ha => by cases ha⟩

/-- Nor does it say that a quota is exceeded. -/
theorem ne_exceeded_of_issuer?_none (h : g.issuer? now find key = none) (r : ρ) (route : Text)
    (headers : QuotaHeaders) :
    (g.check r now find key route).outcome ≠ .error (.exceeded headers) := by
  unfold issuer? at h
  -- keyless, unanswered, at fault or unknown: no consume is made that could be denied
  cases hkey : key.filter (· ≠ []) with
  | none =>
    rw [check_of_keyless hkey]
    intro hexceeded
    cases hexceeded
  | some k =>
    rw [hkey] at h
    dsimp only at h
    cases hresolve : (g.directory.resolve now find k).answer.outcome with
    | error e =>
      cases e with
      | unanswered e =>
        rw [check_of_unanswered hkey hresolve]
        dsimp only
        unfold unanswered
        split <;> intro hexceeded <;> cases hexceeded
      | number f =>
        rw [check_of_fault hkey hresolve]
        intro hexceeded
        cases hexceeded
    | ok found =>
      rw [hresolve] at h
      cases h
      rw [check_of_unknown hkey hresolve]
      intro hexceeded
      cases hexceeded

/-- **With an issuer a check is its charge**, whatever becomes of the directory. -/
theorem check_of_issuer?_some {i : Identity} (h : g.issuer? now find key = some i) (r : ρ)
    (route : Text) :
    ∃ directory log asked,
      let c := charge { g with directory := directory } r now i route
      g.check r now find key route = ⟨c.state.1, c.state.2, log ++ c.log, asked, c.answer⟩ := by
  unfold issuer? at h
  cases hkey : key.filter (· ≠ []) with
  | none =>
    rw [hkey] at h
    cases h
  | some k =>
    rw [hkey] at h
    dsimp only at h
    -- an issuer is named by one outcome only
    cases hresolve : (g.directory.resolve now find k).answer.outcome with
    | error e =>
      rw [hresolve] at h
      cases h
    | ok found =>
      rw [hresolve] at h
      cases h
      exact ⟨_, _, _, check_of_resolved hkey hresolve⟩

end Gate

end IssuerGate
