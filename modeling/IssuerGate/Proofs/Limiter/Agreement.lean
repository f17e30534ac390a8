import IssuerGate.Proofs.Limiter.Undisturbed
import IssuerGate.Proofs.Limiter.Usage

/-!
# IssuerGate — the report after a decision

A decision goes by the tier of its request, a row of the usage report by the tier that opened the
window. Both speak of one bucket, so they agree on its end, and on its count as far as the limits
are the same:

* **`running`** — the requests of the running window: those since the last one that found none.
* **`Backed`** — a stored bucket has the tier and the start of the first of them, and counts no more
  than the largest of their limits. Each request keeps that (`Backed.charge`), and no other call
  touches the bucket, unless it drops it.
* **`usage_of_consume`** — so right after a decision there is one row for its bucket, and what the
  row shows is known from the decision and the running window.
* **`usage_of_consume_disagrees`** — a row shows another limit than the decision if the tier has
  changed within the window.
-/

namespace IssuerGate

open Counters

theorem Quota.limitFor_nonneg {q : Quota} (hfree : 0 ≤ q.freeLimit) (hpaid : 0 ≤ q.paidLimit)
    (tier : Tier) : 0 ≤ q.limitFor tier := by
  cases tier with
  | free => exact hfree
  | paid => exact hpaid

namespace Limiter

/-! ## The running window -/

/-- The requests of the running window, oldest first: the last one that found none running, and
those that followed. -/
def running (ps : List Passage) : List Passage :=
  ps.foldl (fun w p => if p.found.isNone then [p] else w ++ [p]) []

theorem running_concat (ps : List Passage) (p : Passage) :
    running (ps ++ [p]) = if p.found.isNone then [p] else running ps ++ [p] := by
  unfold running
  rw [List.foldl_concat]

/-- What is stored of the running window: its opener, and no more requests than the largest limit
of their tiers. -/
structure Backed (q : Quota) (ps : List Passage) (b : Bucket) : Prop where
  opener : ∃ first, (running ps).head? = some first ∧ b.tier = first.request.tier
    ∧ b.windowStart = first.request.now
  count_le : ∀ most : Int, 0 ≤ most → (∀ p ∈ running ps, q.limitFor p.request.tier ≤ most) →
    b.count ≤ most

/-- **Each request keeps the bucket backed.** -/
theorem Backed.charge {q : Quota} {ps : List Passage} {b? : Option Bucket}
    (h : ∀ b, b? = some b → Backed q ps b) (window : Int) (x : Counters.Request) :
    Backed q (ps ++ [.through window q x b?]) (Bucket.charge window q x.now x.tier b?).1 := by
  obtain ⟨hstart, htier, hcount⟩ := Bucket.charge_keeps window q x.now x.tier b?
  rw [roll_eq_found window q] at hstart htier hcount
  cases hfound : (Passage.through window q x b?).found with
  | none =>
    -- the request opens a window of its own
    have hrunning : running (ps ++ [.through window q x b?]) = [.through window q x b?] := by
      rw [running_concat, hfound]
      rfl
    rw [hfound, Option.getD_none] at hstart htier hcount
    dsimp only at hstart htier hcount
    constructor
    · exact ⟨_, by rw [hrunning]; rfl, htier, hstart⟩
    · intro most hpos hmost
      rw [hrunning] at hmost
      have hown : q.limitFor x.tier ≤ most := hmost _ (List.mem_singleton.mpr rfl)
      omega
  | some b =>
    have hb : b? = some b := (Option.filter_eq_some_iff.mp hfound).1
    obtain ⟨⟨first, hfirst, hopener, hopened⟩, hbound⟩ := h b hb
    have hrunning : running (ps ++ [.through window q x b?])
        = running ps ++ [.through window q x b?] := by
      rw [running_concat, hfound]
      rfl
    rw [hfound, Option.getD_some] at hstart htier hcount
    constructor
    · refine ⟨first, ?_, htier.trans hopener, hstart.trans hopened⟩
      rw [hrunning, List.head?_append, hfirst]
      rfl
    · intro most hpos hmost
      rw [hrunning] at hmost
      have hold := hbound most hpos fun p hp => hmost p (List.mem_append_left _ hp)
      have hown : q.limitFor x.tier ≤ most := hmost (.through window q x b?) (by simp)
      omega

/-- A window whose requests all have one limit is opened under it and counts no more. -/
theorem Backed.of_same_limit {q : Quota} {ps : List Passage} {b : Bucket} (h : Backed q ps b)
    {limit : Int} (hpos : 0 ≤ limit) (hlimits : ∀ p ∈ running ps, q.limitFor p.request.tier = limit) :
    q.limitFor b.tier = limit ∧ b.count ≤ limit := by
  obtain ⟨⟨first, hfirst, hopener, -⟩, hbound⟩ := h
  constructor
  · rw [hopener]
    exact hlimits first (List.mem_of_mem_head? hfirst)
  · exact hbound limit hpos fun p hp => Int.le_of_eq (hlimits p hp)

/-- What a decision says of the bucket that its request leaves. -/
theorem decision_of_charge {window : Int} {q : Quota} {now : Int} {tier : Tier} {b? : Option Bucket}
    {d : Decision} (h : (Bucket.charge window q now tier b?).2.map (decision window) = .ok d) :
    let charged := (Bucket.charge window q now tier b?).1
    d.limit = q.limitFor tier ∧ d.remaining = max (d.limit - charged.count) 0
      ∧ d.resetAt = charged.windowStart + window := by
  intro charged
  -- denied with nothing left, failed without a decision, or admitted with the rest
  obtain ⟨hlimit, hcharge⟩ | ⟨-, ⟨e, hcharge⟩ | ⟨nudge, -, hcharge⟩⟩ :=
    Bucket.charge_cases window q now tier b?
  · simp only [charged, hcharge] at h ⊢
    rw [← Except.ok.inj h]
    refine ⟨rfl, ?_, rfl⟩
    show (0 : Int) = max _ 0
    dsimp only [decision]
    omega
  · rw [hcharge] at h
    cases h
  · simp only [charged, hcharge] at h ⊢
    rw [← Except.ok.inj h]
    exact ⟨rfl, rfl, rfl⟩

section Step

variable {ρ : Type} [Receiver ρ] {s : Limiter × ρ} {x : Counters.Request}

/-- A request of a key is seen with the bucket of the key. -/
theorem passage?_filter_of_key (h : s.1.counters.DistinctKeys) {c : Call} (hx : c.request? = some x)
    {issuer : Json} {route : Text} (hkey : x.key = bucketKey issuer route) :
    (passage? s c).toList.filter (·.request.key = bucketKey issuer route)
      = [.through s.1.window s.1.quota x (s.1.counters.get? issuer route)] := by
  rw [passage?_eq h, hx, ← get?_eq_of_key hkey]
  exact List.filter_cons_of_pos (decide_eq_true hkey)

/-- A call for another key makes no passage under this one. -/
theorem passage?_filter_of_ne {c : Call} {key : Text}
    (hne : ∀ x, c.request? = some x → x.key ≠ key) :
    (passage? s c).toList.filter (·.request.key = key) = [] := by
  unfold passage?
  cases hx : c.request? with
  | none => rfl
  | some x => exact List.filter_cons_of_neg fun hkey => hne x hx (of_decide_eq_true hkey)

/-- A decision is that on the charge of the stored bucket. -/
theorem charge_of_decided (h : s.1.counters.DistinctKeys) {d : Decision}
    (hd : (s.1.consume s.2 x.now x.issuer x.tier x.route).answer = .ok d) :
    (Bucket.charge s.1.window s.1.quota x.now x.tier (s.1.counters.get? x.issuer x.route)).2.map
      (decision s.1.window) = .ok d := by
  rw [answer_consume_eq h] at hd
  unfold live? at hd
  rw [Bucket.charge_filter_isLive] at hd
  exact hd

/-- Right after a request its key has one row, which shows the charged bucket. -/
theorem exists_row_of_request (h : s.1.counters.DistinctKeys) {c : Call}
    (hx : c.request? = some x) :
    let l := (perform s c).state.1
    ∃ slot, slot.bucket = (Bucket.charge s.1.window s.1.quota x.now x.tier
        (s.1.counters.get? x.issuer x.route)).1
      ∧ (l.usage x.now).filter (·.key = x.key) = [l.row slot] := by
  intro l
  obtain ⟨slot, hslot, hbucket⟩ := Option.map_eq_some_iff.mp (get?_perform_of_request h hx)
  -- a bucket that was just charged is running, so it has a row
  have hlive : slot.bucket.isLive l.window x.now = true := by
    rw [hbucket, window_perform]
    exact Bucket.isLive_charge s.1.counters.one_le_window s.1.quota x.now x.tier _
  have hkept : (some slot).filter (fun s => s.bucket.isLive l.window x.now) = some slot :=
    Option.filter_some_pos hlive
  have hrow := usage_filter_key (distinctKeys_perform h c) x.now x.issuer x.route
  rw [hslot, hkept] at hrow
  exact ⟨slot, hbucket, hrow⟩

end Step

/-! ## Runs -/

section Runs

variable {ρ : Type} [Receiver ρ] (q : Quota) (opened : Int) (r : ρ)

/-- **Each stored bucket is backed by the requests of its key**, whatever the clock does. Induction
on the calls from the back: a request of the key leaves a backed bucket, and any other call leaves
the one that is stored, or drops it. -/
theorem backed_after (calls : List Call) (issuer : Json) (route : Text) {b : Bucket}
    (hb : (Run.after perform (start q none opened, r) calls).1.counters.get? issuer route = some b) :
    Backed q ((passages q opened r calls).filter (·.request.key = bucketKey issuer route)) b := by
  -- from the back: the last call charges this key, or leaves its bucket or drops it
  induction calls using List.reverseRecOn generalizing b with
  | nil => cases hb
  | append_singleton calls c ih =>
    let s := Run.after perform (start q none opened, r) calls
    have hdistinct : s.1.counters.DistinctKeys :=
      distinctKeys_after (distinctKeys_ofWindow q.windowMs) calls
    have hquota : s.1.quota = q := quota_after q opened r calls
    rw [Run.after_concat] at hb
    rw [passages_concat, List.filter_append]
    by_cases hown : ∃ x, c.request? = some x ∧ x.key = bucketKey issuer route
    · obtain ⟨x, hx, hkey⟩ := hown
      have hleft := get?_perform_of_request hdistinct hx
      rw [get?_eq_of_key hkey, get?_eq_of_key hkey, hb] at hleft
      rw [passage?_filter_of_key hdistinct hx hkey, Option.some.inj hleft, hquota]
      exact Backed.charge (fun _ => ih) _ x
    · have hne : ∀ x, c.request? = some x → x.key ≠ bucketKey issuer route := fun x hx hkey =>
        hown ⟨x, hx, hkey⟩
      rw [passage?_filter_of_ne hne, List.append_nil]
      rcases get?_perform_of_ne hdistinct hne with hkept | hkept
      · rw [hkept] at hb
        exact ih hb
      · rw [hkept] at hb
        exact ih (Option.filter_eq_some_iff.mp hb).1

/-- **The report agrees with the decision as far as the tier is the same.** Right after a request
that was decided, at the same reading, and whatever the clock did before:

* there is one row for the bucket, and if colons allow it, for the issuer and the route;
* it has the tier that opened the window with the limit of this tier, and the window's end, which the
  decision names too;
* what remains of the limit in the decision is counted in the row;
* and if all requests of the running window came with the limit of the decision, the row has this
  limit, counts no more, and what it leaves is what the decision says. -/
theorem usage_of_consume (hfree : 0 ≤ q.freeLimit) (hpaid : 0 ≤ q.paidLimit) (past : List Call)
    (x : Counters.Request) (d : Decision) :
    let s := Run.after perform (start q none opened, r) past
    let c : Call := ⟨x.now, .consume x.issuer x.tier x.route⟩
    (s.1.consume s.2 x.now x.issuer x.tier x.route).answer = .ok d →
      let rows := rowsAfter q opened r (past ++ [c]) x.now
      let ps := running ((passages q opened r (past ++ [c])).filter (·.request.key = x.key))
      ∃ row first, rows.filter (·.key = x.key) = [row]
        ∧ (ColonFree (requests (past ++ [c])) → rows.filter (·.pair = x.pair) = [row])
        ∧ ps.head? = some first ∧ row.tier = first.request.tier ∧ row.limit = q.limitFor row.tier
        ∧ row.resetAt = first.request.now + max 1 q.windowMs ∧ row.resetAt = d.resetAt
        ∧ d.limit = q.limitFor x.tier ∧ d.remaining = max (d.limit - row.count) 0
        ∧ ((∀ p ∈ ps, q.limitFor p.request.tier = d.limit) →
          row.limit = d.limit ∧ row.count ≤ row.limit ∧ row.limit - row.count = d.remaining) := by
  intro s c hanswer rows ps
  let t := Run.after perform (start q none opened, r) (past ++ [c])
  have hdistinct : s.1.counters.DistinctKeys :=
    distinctKeys_after (distinctKeys_ofWindow q.windowMs) past
  have ht : t = (perform s c).state := Run.after_concat _ past c
  have hquota : t.1.quota = q := quota_after q opened r (past ++ [c])
  have hsame : s.1.quota = q := quota_after q opened r past
  -- the decision and the row are those of one charge
  obtain ⟨hlimit, hremaining, hreset⟩ := decision_of_charge (charge_of_decided hdistinct hanswer)
  obtain ⟨slot, hbucket, hrow⟩ := exists_row_of_request hdistinct (c := c) (x := x) rfl
  rw [← hbucket] at hremaining hreset
  rw [hsame] at hlimit
  rw [← ht] at hrow
  have hstored := get?_perform_of_request hdistinct (c := c) (x := x) rfl
  rw [← ht, ← hbucket] at hstored
  have hbacked := backed_after q opened r (past ++ [c]) x.issuer x.route hstored
  obtain ⟨first, hfirst, hopener, hopened⟩ := hbacked.opener
  have hrowlimit : (t.1.row slot).limit = q.limitFor slot.bucket.tier := by
    rw [← hquota]
    rfl
  refine ⟨t.1.row slot, first, hrow, fun hcolon => ?_, hfirst, hopener, hrowlimit, ?_, ?_, hlimit,
    hremaining, fun hlimits => ?_⟩
  · have hx : x ∈ requests (past ++ [c]) := by
      rw [requests_append]
      exact List.mem_append_right _ (List.mem_singleton.mpr rfl)
    have hrows : rows.filter (·.key = x.key) = rows.filter (·.pair = x.pair) :=
      filter_key_eq_filter_pair hcolon (fun _ => exists_of_mem_rowsAfter q opened r) hx
    exact hrows.symm.trans hrow
  · rw [← hopened, ← window_after q opened r (past ++ [c])]
    rfl
  · rw [hreset, ← window_perform s c, ← ht]
    rfl
  · have hpos : 0 ≤ d.limit := by
      rw [hlimit]
      exact Quota.limitFor_nonneg hfree hpaid x.tier
    obtain ⟨hagree, hfew⟩ := hbacked.of_same_limit hpos hlimits
    rw [hrowlimit, hagree, hremaining]
    refine ⟨rfl, hfew, ?_⟩
    show d.limit - slot.bucket.count = max (d.limit - slot.bucket.count) 0
    omega

end Runs

/-- A paid issuer uses up a window whose opener is later than all that follows: the clock went back. -/
theorem usage_of_consume_of_backward_clock :
    let q : Quota := { windowMs := 10, freeLimit := 1, paidLimit := 3 }
    let a : Json := .ofString "a"
    let route : Text := "/x"
    let past : List Call := [⟨5, .consume a .paid route⟩, ⟨3, .consume a .paid route⟩]
    let x : Counters.Request := ⟨4, a, .paid, route⟩
    let s := Run.after perform (start q none 0, Listener.broken) past
    let c : Call := ⟨x.now, .consume x.issuer x.tier x.route⟩
    (s.1.consume s.2 x.now x.issuer x.tier x.route).answer = .ok ⟨true, 3, 0, 15⟩
      ∧ ∃ row, (rowsAfter q 0 Listener.broken (past ++ [c]) 4).filter (·.pair = x.pair) = [row]
        ∧ row.resetAt = 15 ∧ row.limit = 3 ∧ row.count ≤ row.limit ∧ row.limit - row.count = 0 := by
  intro q a route past x s c
  have hanswer : (s.1.consume s.2 x.now x.issuer x.tier x.route).answer = .ok ⟨true, 3, 0, 15⟩ := by
    decide
  have hcolon : ColonFree (requests (past ++ [c])) := by decide
  obtain ⟨row, first, -, hrow, -, -, -, -, hreset, -, -, hsame⟩ :=
    usage_of_consume q 0 Listener.broken (by decide) (by decide) past x ⟨true, 3, 0, 15⟩ hanswer
  -- all requests of the window were paid, so one limit applies to them
  have hpaid : ∀ p ∈ running ((passages q 0 Listener.broken (past ++ [c])).filter
      (·.request.key = x.key)), q.limitFor p.request.tier = 3 := by
    decide
  exact ⟨hanswer, row, hrow hcolon, hreset, hsame hpaid⟩

/-- Where the tier changes within a window, the limits differ. -/
theorem usage_of_consume_disagrees :
    ¬ ∀ (q : Quota) (opened : Int) (r : Listener) (past : List Call) (x : Counters.Request)
      (d : Decision), 0 ≤ q.freeLimit → 0 ≤ q.paidLimit →
      let s := Run.after perform (start q none opened, r) past
      let c : Call := ⟨x.now, .consume x.issuer x.tier x.route⟩
      (s.1.consume s.2 x.now x.issuer x.tier x.route).answer = .ok d →
        ∃ row, (rowsAfter q opened r (past ++ [c]) x.now).filter (·.key = x.key) = [row]
          ∧ row.limit = d.limit ∧ row.resetAt = d.resetAt ∧ row.count ≤ row.limit
          ∧ row.limit - row.count = d.remaining := by
  intro hagrees
  let q : Quota := {}
  let a : Json := .ofString "a"
  let past : List Call := [⟨0, .consume a .free "/x"⟩]
  let x : Counters.Request := ⟨0, a, .paid, "/x"⟩
  let s := Run.after perform (start q none 0, Listener.broken) past
  have hanswer : (s.1.consume s.2 x.now x.issuer x.tier x.route).answer
      = .ok ⟨true, 600, 598, 60000⟩ := by
    decide
  obtain ⟨row, hrow, hlimit, -, -, -⟩ := hagrees q 0 .broken past x ⟨true, 600, 598, 60000⟩
    (by decide) (by decide) hanswer
  -- the row has the limit of the free tier, which opened the window
  have hshown : ((rowsAfter q 0 Listener.broken
      (past ++ [⟨x.now, .consume x.issuer x.tier x.route⟩]) x.now).filter (·.key = x.key)).map
        (·.limit) = [60] := by
    decide
  rw [hrow, List.map_singleton, hlimit] at hshown
  cases hshown

end Limiter

end IssuerGate
