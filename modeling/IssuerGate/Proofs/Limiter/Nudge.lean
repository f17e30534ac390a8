import IssuerGate.Proofs.Limiter.Windows

/-!
# IssuerGate — one nudge in a window

The first request of a free issuer that brings the count of a window to the upgrade mark is passed
on as a notice, and no other one of that window:

* **`Passage.reaches`** — is the request one that calls for a notice, if none was given yet?
* **`Settled`** — a window has given the notice of the first such request and no other one.
* **`through_nudge`** — one charge: a notice is given exactly if the flag of the bucket is not set
  and the request reaches the mark, and then the flag is set.
* **`Filed`** — the newest window is that of the bucket in the lane, and its flag is set exactly if
  the window has such a request. Each request keeps that (`Filed.add`).
* **`nudge_of_run`** — so each window of each pair is settled in each run of a limiter.
-/

namespace IssuerGate

/-- Is the event a notice to a free issuer? -/
def Event.isUpgrade : Event → Bool
  | .upgrade .. => true
  | .exceeded .. => false

namespace Limiter

open Counters

/-! ## Notices -/

/-- Is the request an admitted one of a free issuer that brings its count to a mark? -/
def Passage.reaches (mark : Int) (p : Passage) : Bool :=
  p.request.tier = .free && p.decision.any (·.allowed) && p.left.any fun b => mark ≤ b.count

/-- The notice with a limit and the count that the request leaves. -/
def Passage.notice (limit : Int) (p : Passage) : Event :=
  .upgrade p.request.issuer p.request.route limit ((p.left.map (·.count)).getD 0)

/-- The notices that are passed on. -/
def Passage.notices (p : Passage) : List Event := p.events.filter Event.isUpgrade

/-- The notices of a window: that of the first request that reaches the mark, and no other one. -/
structure Settled (limit mark : Int) (ps : List Passage) : Prop where
  notices : ps.flatMap Passage.notices
    = ((ps.find? (Passage.reaches mark)).map (Passage.notice limit)).toList
  given : ∀ p ∈ ps, p.notices ≠ [] → ps.find? (Passage.reaches mark) = some p

theorem settled_nil (limit mark : Int) : Settled limit mark [] where
  notices := rfl
  given p hp := by cases hp

/-- One more request in a settled window: it gives its notice exactly if it reaches the mark and no
earlier one has. -/
theorem Settled.concat {limit mark : Int} {ps : List Passage} (h : Settled limit mark ps)
    {p : Passage}
    (hp : p.notices
      = if !(ps.find? (Passage.reaches mark)).isSome && p.reaches mark then [p.notice limit]
        else []) :
    Settled limit mark (ps ++ [p]) := by
  cases hfind : ps.find? (Passage.reaches mark) with
  | some x =>
    -- the notice of the window was given, so the request gives none
    have hnone : p.notices = [] := by
      rw [hp, hfind]
      rfl
    have hkept : (ps ++ [p]).find? (Passage.reaches mark) = some x := by
      rw [List.find?_append, hfind]
      rfl
    refine ⟨?_, fun y hy hgiven => ?_⟩
    · rw [List.flatMap_append, h.notices, hkept, hfind, List.flatMap_singleton, hnone,
        List.append_nil]
    · rcases List.mem_append.mp hy with hold | hnew
      · rw [hkept, ← hfind]
        exact h.given y hold hgiven
      · rw [List.mem_singleton.mp hnew] at hgiven
        exact absurd hnone hgiven
  | none =>
    -- no notice was given yet, so all hangs on the request
    have hsilent : ∀ y ∈ ps, y.notices = [] := by
      intro y hy
      by_contra hgiven
      rw [h.given y hy hgiven] at hfind
      cases hfind
    have hfirst : (ps ++ [p]).find? (Passage.reaches mark)
        = if p.reaches mark then some p else none := by
      rw [List.find?_append, hfind, Option.none_or, List.find?_singleton]
    have hnotices : p.notices = if p.reaches mark then [p.notice limit] else [] := by
      rw [hp, hfind]
      rfl
    refine ⟨?_, fun y hy hgiven => ?_⟩
    · rw [List.flatMap_append, h.notices, hfind, hfirst, List.flatMap_singleton, hnotices]
      split <;> rfl
    · rcases List.mem_append.mp hy with hold | hnew
      · exact absurd (hsilent y hold) hgiven
      · rw [List.mem_singleton.mp hnew] at hgiven ⊢
        rw [hfirst]
        rw [hnotices] at hgiven
        split at hgiven
        · next hreaches => rw [if_pos hreaches]
        · exact absurd rfl hgiven

/-! ## One charge -/

/-- A request that is not admitted reaches nothing, and gives no notice. -/
theorem quiet_of_not_admitted {window : Int} {q : Quota} {x : Request} {b? : Option Bucket}
    (h : ∀ v, (Bucket.charge window q x.now x.tier b?).2 = .ok v → v.allowed = false) (mark : Int) :
    (Passage.through window q x b?).notices = []
      ∧ (Passage.through window q x b?).reaches mark = false := by
  unfold Passage.notices Passage.reaches Passage.through
  dsimp only
  -- failed, there is no event; denied, it is another one
  cases hcharged : (Bucket.charge window q x.now x.tier b?).2 with
  | error e =>
    refine ⟨rfl, ?_⟩
    simp [Except.toOption]
  | ok v =>
    have hdenied := h v hcharged
    refine ⟨?_, ?_⟩
    · show (event? x.now x.issuer x.tier x.route v).toList.filter Event.isUpgrade = []
      unfold event?
      rw [hdenied]
      rfl
    · simp [Except.toOption, decision, hdenied]

section Charge

variable {q : Quota} {mark : Int} (hmark : q.upgradeMark q.freeLimit = .ok mark)
include hmark

/-- **One charge**: the request gives its notice exactly if the flag of the bucket is not set and it
reaches the mark, and then the flag is set. -/
theorem through_nudge (window : Int) (x : Request) (b? : Option Bucket) :
    let rolled := Bucket.roll window x.now x.tier b?
    let p := Passage.through window q x b?
    p.notices = (if !rolled.nudged && p.reaches mark then [p.notice q.freeLimit] else [])
      ∧ (Bucket.charge window q x.now x.tier b?).1.nudged = (rolled.nudged || p.reaches mark)
      ∧ (Bucket.charge window q x.now x.tier b?).1.windowStart = rolled.windowStart := by
  intro rolled p
  obtain ⟨-, hcharge⟩ | ⟨-, ⟨e, hcharge⟩ | ⟨nudge, hnudges, hcharge⟩⟩ :=
    Bucket.charge_cases window q x.now x.tier b?
  · have hdenied : ∀ v, (Bucket.charge window q x.now x.tier b?).2 = .ok v → v.allowed = false := by
      intro v hv
      rw [hcharge] at hv
      cases hv
      rfl
    obtain ⟨hnotices, hreaches⟩ := quiet_of_not_admitted hdenied mark
    rw [hreaches, hnotices, hcharge, Bool.and_false, Bool.or_false]
    exact ⟨rfl, rfl, rfl⟩
  · -- a request that fails is counted, but not admitted
    have hfailed : ∀ v, (Bucket.charge window q x.now x.tier b?).2 = .ok v → v.allowed = false := by
      intro v hv
      rw [hcharge] at hv
      cases hv
    obtain ⟨hnotices, hreaches⟩ := quiet_of_not_admitted hfailed mark
    rw [hreaches, hnotices, hcharge, Bool.and_false, Bool.or_false]
    exact ⟨rfl, rfl, rfl⟩
  -- admitted: a notice is given to a free request at the mark if there was none before
  · have hdecided : nudge = decide (x.tier = .free ∧ rolled.nudged = false
        ∧ mark ≤ ((rolled.count + 1 : Nat) : Int)) := by
      rw [nudges_of_upgradeMark hmark] at hnudges
      exact (Except.ok.inj hnudges).symm
    have hreaches : p.reaches mark
        = decide (x.tier = .free ∧ mark ≤ ((rolled.count + 1 : Nat) : Int)) := by
      simp only [p, Passage.reaches, Passage.through, hcharge]
      show (decide (x.tier = .free) && true && decide (mark ≤ ((rolled.count + 1 : Nat) : Int))) = _
      rw [Bool.and_true, Bool.decide_and]
    have hnudge : nudge = (!rolled.nudged && p.reaches mark) := by
      rw [hdecided, hreaches]
      cases rolled.nudged <;> simp
    have hnotices : p.notices = if nudge then [p.notice q.freeLimit] else [] := by
      cases nudge with
      | true =>
        have hlimit : q.limitFor x.tier = q.freeLimit := by
          rw [(of_decide_eq_true hdecided.symm).1]
          rfl
        rw [if_pos rfl, ← hlimit]
        simp only [p, Passage.notices, Passage.notice, Passage.through, hcharge]
        rfl
      | false =>
        simp only [p, Passage.notices, Passage.through, hcharge]
        rfl
    rw [hnotices, hcharge, hnudge]
    refine ⟨rfl, ?_, rfl⟩
    show (rolled.nudged || (!rolled.nudged && p.reaches mark)) = (rolled.nudged || p.reaches mark)
    cases rolled.nudged <;> rfl

/-! ## The requests of one key -/

/-- The windows of a key beside the bucket in its lane: each is settled, and the newest is that of
the bucket, whose flag is set exactly if one of its requests reaches the mark. -/
structure Filed (q : Quota) (mark : Int) (ws : List Window) (b? : Option Bucket) : Prop where
  settled : ∀ w ∈ ws, Settled q.freeLimit mark w.passages
  newest : ws.head?.map (fun w =>
      (w.first.request.now, (w.passages.find? (Passage.reaches mark)).isSome))
    = b?.map fun b => (b.windowStart, b.nudged)

/-- A request after some others of its window, of which the bucket says whether one reaches the
mark. -/
theorem settled_through {ps : List Passage} (h : Settled q.freeLimit mark ps) (window : Int)
    (x : Request) (b? : Option Bucket)
    (hflag : (Bucket.roll window x.now x.tier b?).nudged
      = (ps.find? (Passage.reaches mark)).isSome) :
    Settled q.freeLimit mark (ps ++ [Passage.through window q x b?])
      ∧ (Bucket.charge window q x.now x.tier b?).1.nudged
        = ((ps ++ [Passage.through window q x b?]).find? (Passage.reaches mark)).isSome := by
  obtain ⟨hnotices, hnudged, -⟩ := through_nudge hmark window x b?
  rw [hflag] at hnotices hnudged
  refine ⟨h.concat hnotices, ?_⟩
  rw [hnudged, List.find?_append, List.find?_singleton]
  cases ps.find? (Passage.reaches mark) with
  | some y => rfl
  | none => cases (Passage.through window q x b?).reaches mark <;> rfl

/-- **Each request keeps the windows filed.** It rolls over exactly if it opens a window. -/
theorem Filed.add {ws : List Window} {b? : Option Bucket} (h : Filed q mark ws b?) (window : Int)
    (x : Request) :
    Filed q mark (file window ws (.through window q x b?))
      (some (Bucket.charge window q x.now x.tier b?).1) := by
  obtain ⟨-, -, hstart⟩ := through_nudge hmark window x b?
  have hnewest := h.newest
  have hopened : ws.head?.map (·.first.request.now) = b?.map (·.windowStart) := by
    have hfirst := congrArg (Option.map Prod.fst) hnewest
    rw [Option.map_map, Option.map_map] at hfirst
    exact hfirst
  obtain ⟨w, elapsed, b, hws, hb, -, hroll, hfile⟩ | ⟨-, hfresh, hfile⟩ :=
    file_cases hopened window q x
  · -- the request falls in the newest window, of which its bucket knows the flag
    rw [hws, hb] at hnewest
    obtain ⟨hsame, hflag⟩ := Prod.mk.inj (Option.some.inj hnewest)
    have hsettled := h.settled
    rw [hws] at hsettled
    obtain ⟨hold, holder⟩ := List.forall_mem_cons.mp hsettled
    obtain ⟨hgrown, hnudged⟩ := settled_through hmark hold window x b? (by
      rw [hroll]
      exact hflag.symm)
    rw [hfile]
    refine ⟨List.forall_mem_cons.mpr ⟨hgrown, holder⟩, ?_⟩
    show some (w.first.request.now, _) = some (_, _)
    rw [hstart, hnudged, hroll, hsame]
    rfl
  · -- a rolled bucket has no flag, as befits a window without an earlier request
    have hflag := congrArg Bucket.nudged hfresh
    obtain ⟨hsettled, hnudged⟩ :=
      settled_through hmark (settled_nil q.freeLimit mark) window x b? hflag
    rw [hfile]
    refine ⟨List.forall_mem_cons.mpr ⟨hsettled, h.settled⟩, ?_⟩
    show some (x.now, _) = some (_, _)
    rw [hstart, hnudged, hfresh]
    rfl

/-- The windows of each lane are filed beside it. -/
theorem filed_lane (window : Int) (xs : List Request) :
    Filed q mark (windows window (lanePassages window q xs)) (lane window q xs) := by
  induction xs using List.reverseRecOn with
  | nil => exact ⟨fun _ hw => (List.not_mem_nil hw).elim, rfl⟩
  | append_singleton xs x ih =>
    rw [lanePassages_concat, windows_concat, lane_concat]
    exact ih.add hmark window x

end Charge

/-! ## Runs -/

section Runs

variable {ρ : Type} [Receiver ρ] (q : Quota) (opened : Int) (r : ρ)

/-- What a receiver gets are the events of the requests: sweeps and reports give none. -/
theorem receiver_after_passages (calls : List Call) :
    (Run.after perform (start q none opened, r) calls).2
      = receiveAll r ((passages q opened r calls).flatMap Passage.events) := by
  induction calls using List.reverseRecOn with
  | nil => rfl
  | append_singleton calls c ih =>
    rw [Run.after_concat, receiver_perform, ih, passages_concat, List.flatMap_append,
      receiveAll_append, heard_eq]

variable {q} {mark : Int} (hmark : q.upgradeMark q.freeLimit = .ok mark)
include hmark

/-- **One nudge in a window, at the first request that reaches the mark**, in each run whose clock
does not go back and in which colons do not confuse the pairs:

* in each window of each pair, the notices are that of the first request that reaches the mark, with
  the free limit and its count, or none if no request does; no other request gives one;
* in particular, whoever gives one is an admitted request of a free issuer;
* and the receiver gets the events of the requests, in order, and nothing else. -/
theorem nudge_of_run {calls : List Call} (hclock : Run.Ordered Call.now calls)
    (hcolon : ColonFree (requests calls)) :
    (∀ pair, ∀ w ∈ windows (max 1 q.windowMs)
        ((passages q opened r calls).filter (·.request.pair = pair)),
      Settled q.freeLimit mark w.passages)
      ∧ (∀ p ∈ passages q opened r calls, p.notices ≠ [] →
        p.request.tier = .free ∧ p.decision.any (·.allowed) = true)
      ∧ (Run.after perform (start q none opened, r) calls).2
        = receiveAll r ((passages q opened r calls).flatMap Passage.events) := by
  have hwindows : ∀ pair, ∀ w ∈ windows (max 1 q.windowMs)
      ((passages q opened r calls).filter (·.request.pair = pair)),
      Settled q.freeLimit mark w.passages := by
    intro pair
    rw [passages_filter_pair q opened r hclock hcolon]
    exact (filed_lane hmark (max 1 q.windowMs) (ofPair pair (requests calls))).settled
  refine ⟨hwindows, fun p hp hgiven => ?_, receiver_after_passages q opened r calls⟩
  have hown : p ∈ (passages q opened r calls).filter (·.request.pair = p.request.pair) :=
    List.mem_filter.mpr ⟨hp, decide_eq_true rfl⟩
  rw [← flatMap_windows (max 1 q.windowMs) (List.filter _ _), List.mem_flatMap] at hown
  -- the passage lies in a window of its pair, and notices go to the first that reaches the mark
  obtain ⟨w, hw, hpw⟩ := hown
  have hfirst := (hwindows p.request.pair w (List.mem_reverse.mp hw)).given p hpw hgiven
  have hreaches := List.find?_some hfirst
  unfold Passage.reaches at hreaches
  simp only [Bool.and_eq_true, decide_eq_true_eq] at hreaches
  exact hreaches.1

end Runs

/-- A paid request carries the count past the mark, so that the first free one gives the notice of
its window; a sweep and a denied request follow. The next window has a notice of its own. -/
theorem nudge_of_run_of_paid_first :
    let q : Quota := { windowMs := 10, freeLimit := 2, upgradeThreshold := .ofDecimal false 5 (-1) }
    let a : Json := .ofString "a"
    let route : Text := "/x"
    let calls : List Call :=
      [⟨0, .consume a .paid route⟩, ⟨1, .consume (.ofString "b") .paid route⟩,
        ⟨2, .consume a .free route⟩, ⟨3, .sweep⟩, ⟨4, .consume a .free route⟩,
        ⟨10, .consume a .free route⟩]
    let r : List Event := []
    let ws := windows 10 ((passages q 0 r calls).filter (·.request.pair = (a.display, route)))
    q.upgradeMark q.freeLimit = .ok 1
      ∧ Run.Ordered Call.now calls
      ∧ ColonFree (requests calls)
      ∧ ws.map (fun w => w.passages.map (·.notices.length)) = [[1], [0, 1, 0]]
      ∧ (∀ w ∈ ws, Settled 2 1 w.passages)
      ∧ (Run.after perform (start q none 0, r) calls).2
        = [.upgrade a route 2 2, .exceeded a .free route 4 2 2, .upgrade a route 2 1] := by
  intro q a route calls r ws
  have hmark : q.upgradeMark q.freeLimit = .ok 1 := by decide
  have hclock : Run.Ordered Call.now calls := by decide
  have hcolon : ColonFree (requests calls) := by decide
  have hnotices : ws.map (fun w => w.passages.map (·.notices.length)) = [[1], [0, 1, 0]] := by
    dsimp only [ws, r, calls, route, a, q]
    rfl
  have hevents : (passages q 0 r calls).flatMap Passage.events
      = [.upgrade a route 2 2, .exceeded a .free route 4 2 2, .upgrade a route 2 1] := by
    dsimp only [r, calls, route, a, q]
    rfl
  obtain ⟨hsettled, -, hreceived⟩ := nudge_of_run 0 r hmark hclock hcolon
  rw [hevents] at hreceived
  exact ⟨hmark, hclock, hcolon, hnotices, hsettled (a.display, route), hreceived⟩

end Limiter

end IssuerGate
