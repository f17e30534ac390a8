import IssuerGate.Proofs.Limiter.Run

/-!
# IssuerGate — who opened a bucket

A usage report shows the issuer and the route of each bucket as they were when it was opened.
Nothing but a consume opens one, so a report names nobody who was not charged.

* **`OpenedBy`** — each bucket was opened by one of some requests; a consume adds its own request to
  them at most, and a sweep none.
* **`openedBy_after`** — the buckets of a limiter that was started without any were opened by the
  requests it was asked to charge.
* **`exists_of_mem_usage`** — so each line of its report goes back to such a request.
-/

namespace IssuerGate

namespace Counters

/-- Each bucket was opened by a request of the list, under its issuer and its route. -/
def OpenedBy (c : Counters) (xs : List Request) : Prop :=
  ∀ s ∈ c.slots, ∃ x ∈ xs, x.issuer = s.issuer ∧ x.route = s.route

variable {c : Counters} {xs : List Request}

theorem OpenedBy.sweep (h : c.OpenedBy xs) (now : Int) : (c.sweep now).OpenedBy xs :=
  fun s hs => h s (mem_slots_sweep.mp hs).1

/-- A consume may open a bucket of its own request, and leaves the issuers and routes of all others.
-/
theorem OpenedBy.consume (h : c.OpenedBy xs) (q : Quota) (now : Int) (issuer : Json) (tier : Tier)
    (route : Text) :
    (c.consume q now issuer tier route).1.OpenedBy (xs ++ [⟨now, issuer, tier, route⟩]) := by
  intro s hs
  obtain ⟨b, hb⟩ := c.consume_eq_set q now issuer tier route
  rw [hb] at hs
  rcases mem_setSlot_cases hs with rfl | ⟨t, ht, -, rfl⟩ | hold
  · exact ⟨⟨now, issuer, tier, route⟩, by simp, rfl, rfl⟩
  -- a bucket that is set again stays under the name it was opened with
  · obtain ⟨x, hx, hsame⟩ := h t ht
    exact ⟨x, List.mem_append_left _ hx, hsame⟩
  · obtain ⟨x, hx, hsame⟩ := h s hold
    exact ⟨x, List.mem_append_left _ hx, hsame⟩

end Counters

namespace Limiter

open Counters

variable {ρ : Type} [Receiver ρ]

/-- One call opens buckets for its own request at most. -/
theorem openedBy_perform {s : Limiter × ρ} {xs : List Request} (h : s.1.counters.OpenedBy xs)
    (c : Call) : (perform s c).state.1.counters.OpenedBy (xs ++ requests [c]) :=
  perform_keeps (fun l xs => l.counters.OpenedBy xs) (fun h => h.sweep c.now)
    (fun {l _} issuer tier route h => h.consume l.quota c.now issuer tier route)
    (fun h => h.sweep c.now) xs h

/-- **The buckets of a limiter were opened by the requests it was asked to charge.** -/
theorem openedBy_after {s : Limiter × ρ} (h : s.1.counters.slots = []) (calls : List Call) :
    (Run.after perform s calls).1.counters.OpenedBy (requests calls) := by
  induction calls using List.reverseRecOn with
  | nil =>
    intro slot hslot
    rw [Run.after_nil, h] at hslot
    cases hslot
  | append_singleton calls c ih =>
    rw [Run.after_concat, requests_append]
    exact openedBy_perform ih c

/-- **Each line of a usage report goes back to a request that was charged.** -/
theorem exists_of_mem_usage {s : Limiter × ρ} (h : s.1.counters.slots = []) (calls : List Call)
    {now : Int} {row : UsageRow} (hrow : row ∈ (Run.after perform s calls).1.usage now) :
    ∃ x ∈ requests calls, x.issuer = row.issuer ∧ x.route = row.route := by
  unfold usage at hrow
  obtain ⟨slot, hslot, hshown⟩ := List.mem_map.mp hrow
  rw [← hshown]
  exact openedBy_after h calls slot (List.mem_filter.mp hslot).1

end Limiter

end IssuerGate
