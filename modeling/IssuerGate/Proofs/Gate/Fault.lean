import IssuerGate.Proofs.Counters.Fault
import IssuerGate.Proofs.Gate.Check

/-!
# IssuerGate — requests that fail at the gate

The key of an issuer is resolved, and then the limiter fails for want of an upgrade mark. The caller
learns of neither a decision nor a quota, but the request is spent:

* **`Limiter.counters_consume_of_fault`** — a limiter that fails has counted the request.
* **`Gate.counters_check_of_fault`** — so has a gate that fails on the key of an issuer.
-/

namespace IssuerGate

variable {ρ : Type} [Receiver ρ] {now : Int} {route : Text}

/-- **A limiter that fails has counted the request**, in counters that may have been swept before. -/
theorem Limiter.counters_consume_of_fault {l : Limiter} {r : ρ} {issuer : Json} {tier : Tier}
    {e : Binary64.Fault} (h : (l.consume r now issuer tier route).answer = .error e) :
    let swept := (l.sweepIfDue now).state.counters
    (l.consume r now issuer tier route).state.1.counters
      = swept.set issuer route (swept.bucketFor now issuer tier route).counted := by
  intro swept
  -- the limiter hands the fault of its counters on
  have hfault : (swept.consume l.quota now issuer tier route).2 = .error e := by
    rw [answer_consume] at h
    cases hverdict : (swept.consume l.quota now issuer tier route).2 with
    | error f =>
      rw [hverdict] at h
      cases h
      rfl
    | ok v =>
      rw [hverdict] at h
      cases h
  rw [limiter_consume]
  exact Counters.state_consume_of_fault hfault

namespace Gate

variable {g : Gate} {r : ρ} {find : Text → Lookup} {key : Option Text}

/-- **A gate that fails on the key of an issuer has counted the request.** -/
theorem counters_check_of_fault {i : Identity} (hissuer : g.issuer? now find key = some i)
    {e : Binary64.Fault}
    (h : (g.check r now find key route).outcome = .error (.fault (.number e))) :
    let swept := (g.limiter.sweepIfDue now).state.counters
    (g.check r now find key route).gate.limiter.counters
      = swept.set i.id route (swept.bucketFor now i.id i.tier route).counted := by
  intro swept
  obtain ⟨directory, log, asked, hcheck⟩ := check_of_issuer?_some hissuer r route
  rw [hcheck] at h ⊢
  have hconsume := answer_charge_eq_number h
  dsimp only
  rw [state_charge]
  exact Limiter.counters_consume_of_fault hconsume

end Gate

end IssuerGate
