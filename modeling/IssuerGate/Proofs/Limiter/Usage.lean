import IssuerGate.Proofs.Limiter.Origin
import IssuerGate.Proofs.Limiter.Windows

/-!
# IssuerGate — the usage report

A usage report shows the buckets whose windows are running. What it ought to show can be said
without buckets: of each issuer and route the window in which its newest request falls, as long as it
lasts, with the requests admitted since it opened.

* **`usage_filter_key`** — the report has one row for the running bucket of a key, and no other row.
* **`Tallied`** — the newest window of a pair is that of its bucket, which counts what was admitted
  in it. Each request keeps that (`Tallied.add`).
* **`account?`** — what the report ought to show of a pair, from its requests and the decisions on
  them alone.
* **`usage_eq_accounts`** — that is what it shows, in each run whose clock does not go back and in
  which colons do not confuse the pairs. So one issuer's rows do not depend on the others.
-/

namespace IssuerGate.Limiter

open Counters

/-! ## Rows -/

/-- The key of the bucket that a row shows. -/
def UsageRow.key (row : UsageRow) : Text := bucketKey row.issuer row.route

/-- The pair under whose name a row shows a bucket. -/
def UsageRow.pair (row : UsageRow) : Text × Text := (row.issuer.display, row.route)

/-- A row has the key of the requests of its issuer on its route. -/
theorem UsageRow.key_eq (row : UsageRow) {y : Counters.Request} (hissuer : y.issuer = row.issuer)
    (hroute : y.route = row.route) : row.key = y.key := by
  unfold key
  rw [← hissuer, ← hroute]
  rfl

/-- A row has the pair of the requests of its issuer on its route. -/
theorem UsageRow.pair_eq (row : UsageRow) {y : Counters.Request} (hissuer : y.issuer = row.issuer)
    (hroute : y.route = row.route) : row.pair = y.pair := by
  unfold pair
  rw [← hissuer, ← hroute]
  rfl

/-- The row of a slot. -/
def row (l : Limiter) (s : Slot) : UsageRow :=
  ⟨s.issuer, s.route, s.bucket.tier, s.bucket.count, l.quota.limitFor s.bucket.tier,
    s.bucket.windowStart + l.window⟩

/-- **A key has one row if its bucket is live, and else none.** -/
theorem usage_filter_key {l : Limiter} (h : l.counters.DistinctKeys) (now : Int) (issuer : Json)
    (route : Text) :
    (l.usage now).filter (·.key = bucketKey issuer route)
      = (((l.counters.find? issuer route).filter fun s => s.bucket.isLive l.window now).map
          l.row).toList := by
  have hlive : ((l.counters.snapshot now).map Slot.key).Nodup := h.sweep now
  have hrows : (l.usage now).filter (·.key = bucketKey issuer route)
      = ((l.counters.snapshot now).filter (·.key = bucketKey issuer route)).map l.row :=
    List.filter_map
  rw [hrows, Keyed.filter_key_of_nodup hlive]
  unfold snapshot find?
  rw [Keyed.find?_filter_of_nodup h, Option.toList_map]
  rfl

/-! ## Accounts -/

/-- What a report says of a pair. -/
structure Account where
  pair : Text × Text
  tier : Tier
  count : Nat
  limit : Int
  resetAt : Int
deriving DecidableEq, Repr

/-- What a row says, under the name of a pair. -/
def UsageRow.accountOf (pair : Text × Text) (row : UsageRow) : Account :=
  ⟨pair, row.tier, row.count, row.limit, row.resetAt⟩

def UsageRow.account (row : UsageRow) : Account := row.accountOf row.pair

/-- Whether an account is among the rows is seen from the rows of its pair. -/
theorem mem_accounts_iff {rows : List UsageRow} {a : Account} :
    a ∈ rows.map UsageRow.account
      ↔ a ∈ (rows.filter (·.pair = a.pair)).map UsageRow.account := by
  simp only [List.mem_map, List.mem_filter, decide_eq_true_eq]
  constructor
  · rintro ⟨row, hrow, rfl⟩
    exact ⟨row, ⟨hrow, rfl⟩, rfl⟩
  · rintro ⟨row, ⟨hrow, -⟩, rfl⟩
    exact ⟨row, hrow, rfl⟩

/-- What a report says of a bucket, under the name of a pair. -/
def Account.ofBucket (length : Int) (q : Quota) (pair : Text × Text) (b : Bucket) : Account :=
  ⟨pair, b.tier, b.count, q.limitFor b.tier, b.windowStart + length⟩

/-- The row of a key says what its bucket says. -/
theorem accounts_usage_key {l : Limiter} (h : l.counters.DistinctKeys) (now : Int) (issuer : Json)
    (route : Text) (pair : Text × Text) :
    ((l.usage now).filter (·.key = bucketKey issuer route)).map (UsageRow.accountOf pair)
      = (((l.counters.get? issuer route).filter (Bucket.isLive l.window now)).map
          (Account.ofBucket l.window l.quota pair)).toList := by
  rw [usage_filter_key h]
  unfold get?
  cases l.counters.find? issuer route with
  | none => rfl
  | some s =>
    by_cases hs : s.bucket.isLive l.window now = true
    · simp only [Option.filter, Option.map_some, hs, if_true]
      rfl
    · simp [Option.filter, hs]

/-- Rows that go back to requests are those of a pair exactly if they are those of its key, where
colons allow it. -/
theorem filter_key_eq_filter_pair {rows : List UsageRow} {xs : List Counters.Request}
    (hcolon : ColonFree xs)
    (hrows : ∀ row ∈ rows, ∃ y ∈ xs, y.issuer = row.issuer ∧ y.route = row.route)
    {x : Counters.Request} (hx : x ∈ xs) :
    rows.filter (·.key = bucketKey x.issuer x.route) = rows.filter (·.pair = x.pair) := by
  apply List.filter_congr
  intro row hrow
  obtain ⟨y, hy, hissuer, hroute⟩ := hrows row hrow
  rw [decide_eq_decide, row.pair_eq hissuer hroute, row.key_eq hissuer hroute]
  exact ⟨hcolon.pair_eq hy hx, Request.key_eq_of_pair⟩

/-- Where no two pairs share a key, the rows of a pair are the rows of its key. -/
theorem accounts_filter_pair {rows : List UsageRow} {xs : List Counters.Request}
    (hcolon : ColonFree xs)
    (hrows : ∀ row ∈ rows, ∃ y ∈ xs, y.issuer = row.issuer ∧ y.route = row.route)
    {x : Counters.Request} (hx : x ∈ xs) :
    (rows.filter (·.pair = x.pair)).map UsageRow.account
      = (rows.filter (·.key = bucketKey x.issuer x.route)).map (UsageRow.accountOf x.pair) := by
  rw [filter_key_eq_filter_pair hcolon hrows hx]
  apply List.map_congr_left
  intro row hrow
  have hpair : row.pair = x.pair := by simpa using (List.mem_filter.mp hrow).2
  unfold UsageRow.account
  rw [hpair]

/-- Was the request admitted, at a reading or later? -/
def Passage.admittedSince (start : Int) (p : Passage) : Bool :=
  p.decision.any (·.allowed) && start ≤ p.request.now

/-- The account of a pair with some requests: that of the newest window while it lasts, with the
tier that opened it and the requests admitted since. -/
def account? (length : Int) (q : Quota) (ps : List Passage) (now : Int) : Option Account :=
  ((windows length ps).head?.filter fun w => now < w.first.request.now + length).map fun w =>
    let opener := w.first.request
    ⟨opener.pair, opener.tier, ps.countP (Passage.admittedSince opener.now),
      q.limitFor opener.tier, opener.now + length⟩

/-- The newest window of some requests is that of the bucket that they leave, which counts the
requests admitted since it opened. All are made before the window ends. -/
structure Tallied (length : Int) (ps : List Passage) (b? : Option Bucket) : Prop where
  newest : (windows length ps).head?.map (fun w => (w.first.request.now, w.first.request.tier))
    = b?.map fun b => (b.windowStart, b.tier)
  count : ∀ b, b? = some b → b.count = ps.countP (Passage.admittedSince b.windowStart)
  before_end : ∀ b, b? = some b → ∀ p ∈ ps, p.request.now < b.windowStart + length
  of_none : b? = none → ps = []

theorem tallied_nil (length : Int) : Tallied length [] none where
  newest := rfl
  count b hb := by cases hb
  before_end b hb := by cases hb
  of_none _ := rfl

/-- To tally the requests of a pair, a bucket has the start and tier of the newest window, counts
what was admitted since, and ends after all of them. -/
theorem tallied_some {length : Int} {ps : List Passage} {b : Bucket}
    (hnewest : (windows length ps).head?.map (fun w => (w.first.request.now, w.first.request.tier))
      = some (b.windowStart, b.tier))
    (hcount : b.count = ps.countP (Passage.admittedSince b.windowStart))
    (hend : ∀ p ∈ ps, p.request.now < b.windowStart + length) : Tallied length ps (some b) where
  newest := hnewest
  count _ hb := by
    rw [← Option.some.inj hb]
    exact hcount
  before_end _ hb := by
    rw [← Option.some.inj hb]
    exact hend
  of_none hnone := by cases hnone

theorem Tallied.opened {length : Int} {ps : List Passage} {b? : Option Bucket}
    (h : Tallied length ps b?) :
    (windows length ps).head?.map (·.first.request.now) = b?.map (·.windowStart) := by
  have hfirst := congrArg (Option.map Prod.fst) h.newest
  rw [Option.map_map, Option.map_map] at hfirst
  exact hfirst

/-- **A charge counts what it admits**, where there is a mark. -/
theorem count_charge {q : Quota} (hmark : q.HasMark) (window : Int) (x : Request)
    (b? : Option Bucket) :
    (Bucket.charge window q x.now x.tier b?).1.count
      = (Bucket.roll window x.now x.tier b?).count
        + if (Passage.through window q x b?).decision.any (·.allowed) then 1 else 0 := by
  unfold Passage.through
  -- denied, failed for want of a mark, or admitted
  obtain ⟨-, hcharge⟩ | ⟨-, ⟨e, hcharge⟩ | ⟨nudge, -, hcharge⟩⟩ :=
    Bucket.charge_cases window q x.now x.tier b?
  · rw [hcharge]
    rfl
  · obtain ⟨v, hv⟩ := Bucket.exists_verdict_charge hmark window x.now x.tier b?
    rw [hcharge] at hv
    cases hv
  · rw [hcharge]
    rfl

/-- One more request counts for one if it was admitted. -/
theorem countP_admittedSince_concat {start : Int} {p : Passage} (hle : start ≤ p.request.now)
    (ps : List Passage) :
    (ps ++ [p]).countP (Passage.admittedSince start)
      = ps.countP (Passage.admittedSince start)
        + if p.decision.any (·.allowed) then 1 else 0 := by
  have hsince : p.admittedSince start = p.decision.any (·.allowed) := by
    have hnow : decide (start ≤ p.request.now) = true := decide_eq_true hle
    unfold Passage.admittedSince
    rw [hnow, Bool.and_true]
  rw [List.countP_append, List.countP_singleton, hsince]

theorem countP_admittedSince_of_lt {start : Int} {ps : List Passage}
    (h : ∀ p ∈ ps, p.request.now < start) : ps.countP (Passage.admittedSince start) = 0 := by
  rw [List.countP_eq_zero]
  intro p hp hsince
  have hlt := h p hp
  unfold Passage.admittedSince at hsince
  rw [Bool.and_eq_true, decide_eq_true_eq] at hsince
  omega

/-- **Each request keeps the tally.** It falls in the newest window, or opens one in which nothing
was admitted before. -/
theorem Tallied.add {q : Quota} (hmark : q.HasMark) {length : Int} (hlength : 1 ≤ length)
    {ps : List Passage} {b? : Option Bucket} (h : Tallied length ps b?) {x : Request}
    (hclock : ∀ p ∈ ps, p.request.now ≤ x.now) :
    Tallied length (ps ++ [.through length q x b?])
      (some (Bucket.charge length q x.now x.tier b?).1) := by
  obtain ⟨hstart, htier, -⟩ := Bucket.charge_keeps length q x.now x.tier b?
  have hcount := count_charge hmark length x b?
  let p := Passage.through length q x b?
  have hgrown (start : Int) (hle : start ≤ x.now) :
      (ps ++ [p]).countP (Passage.admittedSince start)
        = ps.countP (Passage.admittedSince start) + if p.decision.any (·.allowed) then 1 else 0 :=
    countP_admittedSince_concat hle ps
  obtain ⟨w, elapsed, b, hws, hb, hlive, hroll, hfile⟩ | ⟨helapsed, hroll, hfile⟩ :=
    file_cases h.opened length q x
  · -- the opener of the newest window is an earlier request
    have hnewest := h.newest
    rw [hws, hb] at hnewest
    obtain ⟨hopened, hopener⟩ := Prod.mk.inj (Option.some.inj hnewest)
    have hle : b.windowStart ≤ x.now := by
      rw [← hopened]
      exact hclock w.first (mem_of_mem_windows (by rw [hws]; simp) (List.mem_cons_self ..))
    rw [hroll] at hstart htier hcount
    apply tallied_some
    · rw [windows_concat, hfile, hstart, htier, ← hopened, ← hopener]
      rfl
    · rw [hcount, hstart, hgrown _ hle, h.count b hb]
    · rw [hstart]
      refine List.forall_mem_append.mpr ⟨h.before_end b hb, List.forall_mem_singleton.mpr ?_⟩
      show x.now < b.windowStart + length
      omega
  · -- all earlier requests are made before the new window
    have hearlier : ∀ y ∈ ps, y.request.now < x.now := by
      intro y hy
      cases b? with
      | none =>
        rw [h.of_none rfl] at hy
        cases hy
      | some b =>
        have hend := h.before_end b rfl y hy
        have hover := helapsed b rfl
        omega
    rw [hroll] at hstart htier hcount
    dsimp only at hstart htier hcount
    apply tallied_some
    · rw [windows_concat, hfile, hstart, htier]
      rfl
    · rw [hcount, hstart, hgrown _ (Int.le_refl _), countP_admittedSince_of_lt hearlier]
    · rw [hstart]
      refine List.forall_mem_append.mpr ⟨fun y hy => ?_, List.forall_mem_singleton.mpr ?_⟩
      · have hlt := hearlier y hy
        omega
      · show x.now < x.now + length
        omega

/-- **The requests of a lane are tallied in its bucket.** -/
theorem tallied_lane {q : Quota} (hmark : q.HasMark) {length : Int} (hlength : 1 ≤ length)
    {xs : List Request} (hclock : Run.Ordered Request.now xs) :
    Tallied length (lanePassages length q xs) (lane length q xs) := by
  induction xs using List.reverseRecOn with
  | nil => exact tallied_nil length
  | append_singleton xs x ih =>
    rw [Run.ordered_concat] at hclock
    rw [lanePassages_concat, lane_concat]
    refine (ih hclock.1).add hmark hlength fun p hp => hclock.2 p.request ?_
    rw [← map_request_lanePassages length q xs]
    exact List.mem_map_of_mem hp

/-- The account of a pair is that of the bucket in which its requests are tallied, while it is
live. -/
theorem Tallied.account?_eq {length : Int} {ps : List Passage} {b? : Option Bucket}
    (h : Tallied length ps b?) {pair : Text × Text} (hpair : ∀ p ∈ ps, p.request.pair = pair)
    (q : Quota) (now : Int) :
    account? length q ps now
      = (b?.filter (Bucket.isLive length now)).map (Account.ofBucket length q pair) := by
  have hnewest := h.newest
  unfold account?
  -- without a window there is no bucket either, and no account on both sides
  cases hws : windows length ps with
  | nil =>
    rw [hws] at hnewest
    cases b? with
    | none => rfl
    | some b => cases hnewest
  | cons w elapsed =>
    rw [hws] at hnewest
    cases b? with
    | none => cases hnewest
    | some b =>
      obtain ⟨hopened, hopener⟩ := Prod.mk.inj (Option.some.inj hnewest)
      have hown : w.first.request.pair = pair :=
        hpair w.first (mem_of_mem_windows (by rw [hws]; simp) (List.mem_cons_self ..))
      have hlive : now < w.first.request.now + length ↔ b.isLive length now = true := by
        unfold Bucket.isLive
        rw [hopened, decide_eq_true_eq]
        omega
      have hcount := h.count b rfl
      -- both ends are the same reading of the clock
      by_cases hrunning : b.isLive length now = true
      · have hlasts := hlive.mpr hrunning
        rw [hopened] at hlasts
        simp [Option.filter, hlasts, hrunning, hopened, hopener, hown, hcount, Account.ofBucket]
      · have hover := mt hlive.mp hrunning
        rw [hopened] at hover
        simp [Option.filter, hover, hrunning, hopened]

/-- The account of a pair is that of its lane. -/
theorem account?_lane {q : Quota} (hmark : q.HasMark) {length : Int} (hlength : 1 ≤ length)
    {xs : List Counters.Request} (hclock : Run.Ordered Request.now xs) (pair : Text × Text)
    (now : Int) :
    account? length q (lanePassages length q (ofPair pair xs)) now
      = ((lane length q (ofPair pair xs)).filter (Bucket.isLive length now)).map
          (Account.ofBucket length q pair) := by
  have hordered : Run.Ordered Request.now (ofPair pair xs) := hclock.filter _
  refine (tallied_lane hmark hlength hordered).account?_eq (fun p hp => ?_) q now
  have hrequest : p.request ∈ ofPair pair xs := by
    rw [← map_request_lanePassages length q (ofPair pair xs)]
    exact List.mem_map_of_mem hp
  simpa using (List.mem_filter.mp hrequest).2

/-! ## Runs -/

section Runs

variable {ρ : Type} [Receiver ρ] (q : Quota) (opened : Int) (r : ρ)

/-- The rows that a limiter shows after a run. -/
def rowsAfter (calls : List Call) (now : Int) : List UsageRow :=
  (Run.after perform (start q none opened, r) calls).1.usage now

/-- A row belongs to an issuer and a route that were asked for. -/
theorem exists_of_mem_rowsAfter {calls : List Call} {now : Int} {row : UsageRow}
    (h : row ∈ rowsAfter q opened r calls now) :
    ∃ x ∈ requests calls, x.issuer = row.issuer ∧ x.route = row.route :=
  exists_of_mem_usage (s := (start q none opened, r)) rfl calls h

/-- **The report shows of each pair its account, and nothing else.** -/
theorem accounts_usage (hmark : q.HasMark) {calls : List Call} {now : Int}
    (hclock : Run.Ordered Call.now calls) (hnow : ∀ c ∈ calls, c.now ≤ now)
    (hcolon : ColonFree (requests calls)) (pair : Text × Text) :
    ((rowsAfter q opened r calls now).filter (·.pair = pair)).map UsageRow.account
      = (account? (max 1 q.windowMs) q
          ((passages q opened r calls).filter (·.request.pair = pair)) now).toList := by
  have hrows : ∀ row ∈ rowsAfter q opened r calls now,
      ∃ y ∈ requests calls, y.issuer = row.issuer ∧ y.route = row.route := fun _ =>
    exists_of_mem_rowsAfter q opened r
  rw [passages_filter_pair q opened r hclock hcolon,
    account?_lane hmark (Int.le_max_left 1 q.windowMs) (ordered_requests hclock)]
  by_cases hpair : ∃ x ∈ requests calls, x.pair = pair
  · obtain ⟨x, hx, rfl⟩ := hpair
    -- the row of the key shows the bucket of its lane, and that is the lane of the pair
    have htracks := tracks_after q opened r hclock hnow
    have hlive := htracks.live_eq x.issuer x.route now (Int.le_refl now)
    have hlane : ofKey (bucketKey x.issuer x.route) (requests calls)
        = ofPair x.pair (requests calls) := hcolon.ofKey_eq_ofPair hx fun _ hy => hy
    have hwindow : (Run.after perform (start q none opened, r) calls).1.counters.window
        = max 1 q.windowMs := window_after q opened r calls
    rw [hlane] at hlive
    rw [accounts_filter_pair hcolon hrows hx]
    unfold rowsAfter
    rw [accounts_usage_key htracks.distinct, quota_after]
    unfold window
    rw [hlive, hwindow]
  · -- nobody charged the pair, so there is neither a row nor an account
    have hnone : ofPair pair (requests calls) = [] :=
      List.filter_eq_nil_iff.mpr fun x hx hown => hpair ⟨x, hx, of_decide_eq_true hown⟩
    have hnorow : (rowsAfter q opened r calls now).filter (·.pair = pair) = [] := by
      rw [List.filter_eq_nil_iff]
      intro row hrow hown
      obtain ⟨y, hy, hissuer, hroute⟩ := hrows row hrow
      exact hpair ⟨y, hy, (row.pair_eq hissuer hroute).symm.trans (of_decide_eq_true hown)⟩
    rw [hnone, hnorow]
    rfl

/-- The time between sweeps is nothing to the account of a lane. -/
theorem account?_sweepMs (length sweepMs : Int) (xs : List Counters.Request) (now : Int) :
    let q' : Quota := { q with sweepMs := sweepMs }
    account? length q' (lanePassages length q' xs) now
      = account? length q (lanePassages length q xs) now := rfl

/-- The requests of a pair are among those of its issuer. -/
theorem ofPair_filter_issuer (pair : Text × Text) (xs : List Counters.Request) :
    ofPair pair (xs.filter (·.issuer.display = pair.1)) = ofPair pair xs := by
  unfold ofPair
  rw [List.filter_filter]
  apply List.filter_congr
  intro x _
  by_cases hown : x.pair = pair
  · have hissuer : x.issuer.display = pair.1 := congrArg Prod.fst hown
    simp [hown, hissuer]
  · simp [hown]

/-- **The usage report is exact**, in each run whose clock does not go back and in which colons do
not confuse the pairs, where the upgrade mark is known:

* of each pair it shows its account, in one row, and nothing if it has none;
* each row names an issuer and a route that were charged;
* and the rows of an issuer are the same, as a set, in any other run with the same requests of that
  issuer, whatever the others ask and however long the limiter waits between sweeps. -/
theorem usage_eq_accounts (hmark : q.HasMark) {calls : List Call} {now : Int}
    (hclock : Run.Ordered Call.now (calls ++ [⟨now, .usage⟩])) (hcolon : ColonFree (requests calls)) :
    let rows := rowsAfter q opened r calls now
    (∀ pair, (rows.filter (·.pair = pair)).map UsageRow.account
        = (account? (max 1 q.windowMs) q
            ((passages q opened r calls).filter (·.request.pair = pair)) now).toList)
      ∧ (∀ row ∈ rows, ∃ x ∈ requests calls, x.issuer = row.issuer ∧ x.route = row.route)
      ∧ ∀ (sweepMs opened' : Int) (r' : ρ) (calls' : List Call),
        Run.Ordered Call.now (calls' ++ [⟨now, .usage⟩]) → ColonFree (requests calls') →
        let rows' := rowsAfter { q with sweepMs := sweepMs } opened' r' calls' now
        ∀ issuer, (requests calls').filter (·.issuer.display = issuer)
            = (requests calls).filter (·.issuer.display = issuer) →
          ∀ a : Account, a.pair.1 = issuer →
            (a ∈ rows'.map UsageRow.account ↔ a ∈ rows.map UsageRow.account) := by
  intro rows
  rw [Run.ordered_concat] at hclock
  refine ⟨accounts_usage q opened r hmark hclock.1 hclock.2 hcolon,
    fun _ => exists_of_mem_rowsAfter q opened r, ?_⟩
  rintro sweepMs opened' r' calls' hclock' hcolon' rows' _ hsame a rfl
  let q' : Quota := { q with sweepMs := sweepMs }
  rw [Run.ordered_concat] at hclock'
  -- the pair had the same requests in both runs, for they are its issuer's
  have hrequests : ofPair a.pair (requests calls') = ofPair a.pair (requests calls) := by
    rw [← ofPair_filter_issuer, hsame, ofPair_filter_issuer]
  have hshown := accounts_usage q opened r hmark hclock.1 hclock.2 hcolon a.pair
  have hshown' := accounts_usage q' opened' r' hmark hclock'.1 hclock'.2 hcolon' a.pair
  rw [passages_filter_pair q opened r hclock.1 hcolon] at hshown
  rw [passages_filter_pair q' opened' r' hclock'.1 hcolon', hrequests] at hshown'
  have hmem : a ∈ rows.map UsageRow.account
      ↔ a ∈ (rows.filter (·.pair = a.pair)).map UsageRow.account := mem_accounts_iff
  -- how often is swept does not enter into an account
  have hunswept := account?_sweepMs q (max 1 q.windowMs) sweepMs (ofPair a.pair (requests calls)) now
  rw [mem_accounts_iff, hmem, hshown, hshown', hunswept]

end Runs

/-- One issuer comes back in a new window under another tier, with a denied request in each; the
window of its neighbour has just ended. Without the neighbour and with rare sweeps the issuer's row
is the same. -/
theorem usage_eq_accounts_of_neighbour :
    let q : Quota := { windowMs := 10, freeLimit := 1, sweepMs := 3 }
    let a : Json := .ofString "a"
    let b : Json := .ofString "b"
    let route : Text := "/x"
    let calls : List Call :=
      [⟨0, .consume a .free route⟩, ⟨2, .consume b .paid route⟩, ⟨4, .sweep⟩,
        ⟨5, .consume a .free route⟩, ⟨10, .consume a .paid route⟩, ⟨11, .consume a .free route⟩]
    let calls' : List Call :=
      [⟨0, .consume a .free route⟩, ⟨5, .consume a .free route⟩, ⟨10, .consume a .paid route⟩,
        ⟨11, .consume a .free route⟩]
    let rows := rowsAfter q 0 Listener.broken calls 12
    let rows' := rowsAfter { q with sweepMs := 60000 } 7 Listener.broken calls' 12
    let account : Account := ⟨(a.display, route), .paid, 1, 600, 20⟩
    q.HasMark
      ∧ Run.Ordered Call.now (calls ++ [⟨12, .usage⟩]) ∧ ColonFree (requests calls)
      ∧ (rows.filter (·.pair = (a.display, route))).map UsageRow.account = [account]
      ∧ (rows.filter (·.pair = (b.display, route))).map UsageRow.account = []
      ∧ account ∈ rows'.map UsageRow.account := by
  intro q a b route calls calls' rows rows' account
  have hmark : q.HasMark := by decide
  have hclock : Run.Ordered Call.now (calls ++ [⟨12, .usage⟩]) := by decide
  have hcolon : ColonFree (requests calls) := by decide
  obtain ⟨haccounts, -, hothers⟩ := usage_eq_accounts q 0 Listener.broken hmark hclock hcolon
  -- the window of the one runs on at 12, that of the other ended at that time
  let seen (i : Json) := (passages q 0 Listener.broken calls).filter
    (·.request.pair = (i.display, route))
  have hrunning : account? 10 q (seen a) 12 = some account := by decide
  have hended : account? 10 q (seen b) 12 = none := by decide
  have hown : (rows.filter (·.pair = (a.display, route))).map UsageRow.account = [account] :=
    (haccounts (a.display, route)).trans (congrArg Option.toList hrunning)
  have hneighbour : (rows.filter (·.pair = (b.display, route))).map UsageRow.account = [] :=
    (haccounts (b.display, route)).trans (congrArg Option.toList hended)
  refine ⟨hmark, hclock, hcolon, hown, hneighbour, ?_⟩
  have hclock' : Run.Ordered Call.now (calls' ++ [⟨12, .usage⟩]) := by decide
  have hcolon' : ColonFree (requests calls') := by decide
  have hsame : (requests calls').filter (·.issuer.display = a.display)
      = (requests calls).filter (·.issuer.display = a.display) := by rfl
  have hmem : account ∈ (rows.filter (·.pair = (a.display, route))).map UsageRow.account := by
    rw [hown]
    exact List.mem_singleton.mpr rfl
  obtain ⟨row, hrow, haccount⟩ := List.mem_map.mp hmem
  exact (hothers 60000 7 Listener.broken calls' hclock' hcolon' a.display hsame account rfl).mpr
    (List.mem_map.mpr ⟨row, (List.mem_filter.mp hrow).1, haccount⟩)

end IssuerGate.Limiter
