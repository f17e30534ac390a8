import IssuerGate.Proofs.Limiter.Passage

/-!
# IssuerGate — the windows of a run

The requests of one issuer on one route fall in windows. These can be told from the readings of the
requests alone, and are those of the buckets in which the requests count, as long as the clock does
not go back:

* **`windows`** — some requests, as they passed, cut into windows.
* **`file_cases`** — a request opens a window exactly if it rolls over its bucket.
* **`passages`** — what is seen of the requests of a run. Those of one key are seen in its lane
  alone (`passages_filter_key`), and where colons allow it are those of one pair
  (`passages_filter_pair`).
-/

namespace IssuerGate.Limiter

open Counters

/-! ## Windows -/

/-- The requests that fall in one window, as they passed, oldest first. -/
structure Window where
  first : Passage
  later : List Passage

def Window.passages (w : Window) : List Passage := w.first :: w.later

/-- A request falls in the running window, which is kept at the front, or opens a new one. -/
def file (length : Int) (ws : List Window) (p : Passage) : List Window :=
  match ws with
  | [] => [⟨p, []⟩]
  | w :: elapsed =>
    if p.request.now - w.first.request.now < length then ⟨w.first, w.later ++ [p]⟩ :: elapsed
    else ⟨p, []⟩ :: w :: elapsed

/-- The windows of some requests, newest first. Each starts with a request and lasts until the
first one that comes its length later. -/
def windows (length : Int) (ps : List Passage) : List Window := ps.foldl (file length) []

theorem windows_concat (length : Int) (ps : List Passage) (p : Passage) :
    windows length (ps ++ [p]) = file length (windows length ps) p :=
  List.foldl_concat ..

/-- **Each request falls in one window, in order.** -/
theorem flatMap_windows (length : Int) (ps : List Passage) :
    (windows length ps).reverse.flatMap Window.passages = ps := by
  induction ps using List.reverseRecOn with
  | nil => rfl
  | append_singleton ps p ih =>
    have hopens : ((⟨p, []⟩ :: windows length ps).reverse).flatMap Window.passages = ps ++ [p] := by
      rw [List.reverse_cons, List.flatMap_append, ih]
      rfl
    rw [windows_concat]
    -- a passage opens a window or goes to the end of the newest
    unfold file
    split
    · next hnone =>
      rw [hnone] at hopens
      exact hopens
    · next w elapsed hsome =>
      rw [hsome] at hopens ih
      split
      · rw [List.reverse_cons, List.flatMap_append, List.flatMap_singleton] at ih ⊢
        rw [← ih, List.append_assoc]
        rfl
      · exact hopens

/-- What falls in a window is one of the requests. -/
theorem mem_of_mem_windows {length : Int} {ps : List Passage} {w : Window}
    (hw : w ∈ windows length ps) {p : Passage} (hp : p ∈ w.passages) : p ∈ ps := by
  rw [← flatMap_windows length ps, List.mem_flatMap]
  exact ⟨w, List.mem_reverse.mpr hw, hp⟩

/-- **A request opens a window exactly if it rolls over its bucket**, whose start is that of the
newest window. -/
theorem file_cases {ws : List Window} {b? : Option Bucket}
    (h : ws.head?.map (·.first.request.now) = b?.map (·.windowStart)) (length : Int) (q : Quota)
    (x : Request) :
    let p := Passage.through length q x b?
    (∃ w elapsed b, ws = w :: elapsed ∧ b? = some b ∧ x.now - b.windowStart < length
        ∧ Bucket.roll length x.now x.tier b? = b
        ∧ file length ws p = ⟨w.first, w.later ++ [p]⟩ :: elapsed)
      ∨ ((∀ b, b? = some b → length ≤ x.now - b.windowStart)
        ∧ Bucket.roll length x.now x.tier b? = ⟨x.now, 0, x.tier, false⟩
        ∧ file length ws p = ⟨p, []⟩ :: ws) := by
  intro p
  have hnow : p.request.now = x.now := rfl
  -- a bucket and the newest window were opened together, so both run on or both are over
  obtain ⟨b, hb, hlive, hroll⟩ | ⟨helapsed, hroll⟩ := Bucket.roll_cases length x.now x.tier b?
  · cases ws with
    | nil =>
      rw [hb] at h
      cases h
    | cons w elapsed =>
      rw [hb] at h
      have hstart : w.first.request.now = b.windowStart := Option.some.inj h
      refine Or.inl ⟨w, elapsed, b, rfl, hb, hlive, hroll, ?_⟩
      unfold file
      dsimp only
      rw [hnow, hstart, if_pos hlive]
  · refine Or.inr ⟨helapsed, hroll, ?_⟩
    cases ws with
    | nil => rfl
    | cons w elapsed =>
      obtain ⟨b, hb, hopened⟩ := Option.map_eq_some_iff.mp h.symm
      have hstart : b.windowStart = w.first.request.now := hopened
      have hle := helapsed b hb
      unfold file
      dsimp only
      rw [hnow, if_neg (by omega)]

/-! ## Runs -/

/-- What is seen of the requests of one key in its lane. -/
def lanePassages (window : Int) (q : Quota) (xs : List Request) : List Passage :=
  (Run.moments (laneStep window q) none xs).map fun m => .through window q m.2 m.1

/-- One more request passes the bucket that those before it left. -/
theorem lanePassages_concat (window : Int) (q : Quota) (xs : List Request) (x : Request) :
    lanePassages window q (xs ++ [x])
      = lanePassages window q xs ++ [.through window q x (lane window q xs)] := by
  unfold lanePassages
  rw [Run.moments_concat, List.map_append]
  rfl

theorem map_request_lanePassages (window : Int) (q : Quota) (xs : List Request) :
    (lanePassages window q xs).map Passage.request = xs := by
  induction xs using List.reverseRecOn with
  | nil => rfl
  | append_singleton xs x ih =>
    rw [lanePassages_concat, List.map_append, ih]
    rfl

section Runs

variable {ρ : Type} [Receiver ρ] (q : Quota) (opened : Int) (r : ρ)

/-- What is seen of the requests of a run, in order. -/
def passages (calls : List Call) : List Passage :=
  (Run.moments perform (start q none opened, r) calls).filterMap fun m => passage? m.1 m.2

/-- One more call makes the passage of its request, if it has one. -/
theorem passages_concat (calls : List Call) (c : Call) :
    passages q opened r (calls ++ [c])
      = passages q opened r calls
        ++ (passage? (Run.after perform (start q none opened, r) calls) c).toList := by
  unfold passages
  rw [Run.moments_concat, List.filterMap_append]
  congr 1

theorem map_request_passages (calls : List Call) :
    (passages q opened r calls).map Passage.request = requests calls := by
  induction calls using List.reverseRecOn with
  | nil => rfl
  | append_singleton calls c ih =>
    rw [passages_concat, requests_append, List.map_append, ih, requests_singleton]
    unfold passage?
    cases c.request? <;> rfl

/-- The next passage is that of a charge of the bucket in its lane, as long as the clock does not go
back: the stored bucket is that one wherever a request looks at it. -/
theorem passage?_of_lane {calls : List Call} (hclock : Run.Ordered Call.now calls) {c : Call}
    (hnow : ∀ d ∈ calls, d.now ≤ c.now) :
    passage? (Run.after perform (start q none opened, r) calls) c
      = c.request?.map fun x =>
          .through (max 1 q.windowMs) q x
            (lane (max 1 q.windowMs) q (ofKey x.key (requests calls))) := by
  have htracks := tracks_after q opened r hclock hnow
  have hwindow : (Run.after perform (start q none opened, r) calls).1.counters.window
      = max 1 q.windowMs := window_after q opened r calls
  rw [passage?_eq htracks.distinct, quota_after]
  cases hx : c.request? with
  | none => rfl
  -- what has run out makes no difference to the passage, and of the rest the lane has all
  | some x =>
    have hlive := htracks.live_eq x.issuer x.route x.now (Int.le_of_eq (now_of_request? hx).symm)
    rw [hwindow] at hlive
    show some (Passage.through _ _ _ _) = some (Passage.through _ _ _ _)
    rw [window, hwindow, Passage.through_congr hlive]
    rfl

/-- **What is seen of the requests of a key is seen in its lane.** Induction on the calls from the
back: a request of the key is charged in its lane, and no other call has a say. -/
theorem passages_filter_key {calls : List Call} (hclock : Run.Ordered Call.now calls) (key : Text) :
    (passages q opened r calls).filter (·.request.key = key)
      = lanePassages (max 1 q.windowMs) q (ofKey key (requests calls)) := by
  -- from the back: the last call adds to the lane iff its request has the key
  induction calls using List.reverseRecOn with
  | nil => rfl
  | append_singleton calls c ih =>
    rw [Run.ordered_concat] at hclock
    rw [passages_concat, passage?_of_lane q opened r hclock.1 hclock.2, requests_append,
      requests_singleton, List.filter_append, ofKey_append, ih hclock.1]
    cases c.request? with
    | none =>
      show _ ++ [] = lanePassages _ _ (_ ++ [])
      rw [List.append_nil, List.append_nil]
    | some x =>
      show _ ++ List.filter _ [Passage.through _ _ x _] = lanePassages _ _ (_ ++ ofKey key [x])
      have hfilter : ∀ p : Passage, p.request = x →
          [p].filter (·.request.key = key) = if x.key = key then [p] else [] := by
        rintro p rfl
        simp [List.filter_cons]
      rw [hfilter _ rfl]
      by_cases hkey : x.key = key
      · rw [if_pos hkey, ← hkey, ofKey_self, lanePassages_concat]
      · rw [if_neg hkey, ofKey_of_ne hkey, List.append_nil, List.append_nil]

/-- **What is seen of the requests of a pair is seen in its lane**, where colons allow it. -/
theorem passages_filter_pair {calls : List Call} (hclock : Run.Ordered Call.now calls)
    (hcolon : ColonFree (requests calls)) (pair : Text × Text) :
    (passages q opened r calls).filter (·.request.pair = pair)
      = lanePassages (max 1 q.windowMs) q (ofPair pair (requests calls)) := by
  have hrequest : ∀ p ∈ passages q opened r calls, p.request ∈ requests calls := by
    intro p hp
    rw [← map_request_passages q opened r]
    exact List.mem_map_of_mem hp
  -- a pair that was asked for has a key of its own, any other has no passages
  by_cases hpair : ∃ x ∈ requests calls, x.pair = pair
  · obtain ⟨x, hx, rfl⟩ := hpair
    rw [← hcolon.ofKey_eq_ofPair hx fun _ hy => hy, ← passages_filter_key q opened r hclock]
    apply List.filter_congr
    intro p hp
    rw [decide_eq_decide]
    exact ⟨Request.key_eq_of_pair, hcolon.pair_eq (hrequest p hp) hx⟩
  · have hnone : ofPair pair (requests calls) = [] :=
      List.filter_eq_nil_iff.mpr fun x hx hown => hpair ⟨x, hx, of_decide_eq_true hown⟩
    rw [hnone]
    exact List.filter_eq_nil_iff.mpr fun p hp hown =>
      hpair ⟨p.request, hrequest p hp, of_decide_eq_true hown⟩

end Runs

end IssuerGate.Limiter
