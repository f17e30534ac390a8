import IssuerGate.Proofs.Counters.Charge
import IssuerGate.Proofs.Counters.Keys
import IssuerGate.Proofs.Run

/-!
# IssuerGate — the lane of a key

The counters hold the buckets of all keys, and sweeps drop the elapsed ones. A *lane* is the history
of one key alone: its requests charged one after the other on a bucket that is never swept.

* **`Tracks`** — the counters agree with the lanes of the requests made so far, as far as a later
  request can look: for each key, the stored bucket and the bucket of the lane are the same at each
  reading at which either of them is live.
* **`Tracks.sweep`**, **`Tracks.consume`** — sweeps and consumes keep the agreement, whatever key
  they are about. The clock must not go back: only then does an elapsed bucket stay elapsed.
* **`Tracks.verdict_eq`** — so a consume says what the lane of its own key says.
-/

namespace IssuerGate.Counters

/-! ## Lanes -/

/-- One request on the bucket of its key alone. -/
def laneStep (window : Int) (q : Quota) (b? : Option Bucket) (x : Request) :
    Step (Option Bucket) (Except Binary64.Fault Verdict) :=
  let charged := Bucket.charge window q x.now x.tier b?
  ⟨some charged.1, [], charged.2⟩

/-- The bucket that requests leave if they all have one key and nothing is ever swept. -/
def lane (window : Int) (q : Quota) (xs : List Request) : Option Bucket :=
  Run.after (laneStep window q) none xs

theorem lane_concat (window : Int) (q : Quota) (xs : List Request) (x : Request) :
    lane window q (xs ++ [x])
      = some (Bucket.charge window q x.now x.tier (lane window q xs)).1 :=
  Run.after_concat none xs x

/-! ## Agreement of the counters with the lanes -/

/-- From a reading on, each stored bucket is live exactly when that of its lane is, and is then the
same one. -/
structure Tracks (c : Counters) (q : Quota) (xs : List Request) (now : Int) : Prop where
  distinct : c.DistinctKeys
  live_eq : ∀ issuer route m, now ≤ m →
    (c.get? issuer route).filter (Bucket.isLive c.window m)
      = (lane c.window q (ofKey (bucketKey issuer route) xs)).filter (Bucket.isLive c.window m)

theorem tracks_ofWindow (ms : Int) (q : Quota) (now : Int) : Tracks (ofWindow ms) q [] now where
  distinct := distinctKeys_ofWindow ms
  live_eq _ _ _ _ := rfl

variable {c : Counters} {q : Quota} {xs : List Request} {now : Int}

theorem Tracks.later (h : Tracks c q xs now) {later : Int} (hle : now ≤ later) :
    Tracks c q xs later where
  distinct := h.distinct
  live_eq issuer route m hm := h.live_eq issuer route m (by omega)

/-- Keeping what is live now and then what is live later keeps what is live later. -/
theorem filter_isLive_of_le {window m : Int} (hle : now ≤ m) (b? : Option Bucket) :
    (b?.filter (Bucket.isLive window now)).filter (Bucket.isLive window m)
      = b?.filter (Bucket.isLive window m) := by
  cases b? with
  | none => rfl
  | some b =>
    by_cases hm : b.isLive window m = true
    · simp [Option.filter, hm, Bucket.isLive_of_le hle hm]
    · by_cases hn : b.isLive window now = true <;> simp [Option.filter, hm, hn]

/-- A sweep keeps the agreement: what it drops has elapsed and never comes back. -/
theorem Tracks.sweep (h : Tracks c q xs now) : Tracks (c.sweep now) q xs now where
  distinct := h.distinct.sweep now
  live_eq issuer route m hm := by
    have hlive : c.isLive now = Bucket.isLive c.window now := rfl
    rw [get?_sweep h.distinct, window_sweep, hlive, filter_isLive_of_le hm]
    exact h.live_eq issuer route m hm

/-- A charge is the same on the stored bucket and on that of the lane. -/
theorem Tracks.charge_eq (h : Tracks c q xs now) (issuer : Json) (tier : Tier) (route : Text) :
    Bucket.charge c.window q now tier (c.get? issuer route)
      = Bucket.charge c.window q now tier
          (lane c.window q (ofKey (bucketKey issuer route) xs)) := by
  rw [← Bucket.charge_filter_isLive, h.live_eq issuer route now (Int.le_refl now),
    Bucket.charge_filter_isLive]

/-- **A consume says what the lane of its key says.** -/
theorem Tracks.verdict_eq (h : Tracks c q xs now) (issuer : Json) (tier : Tier) (route : Text) :
    (c.consume q now issuer tier route).2
      = (Bucket.charge c.window q now tier
          (lane c.window q (ofKey (bucketKey issuer route) xs))).2 := by
  rw [consume_eq_charge, h.charge_eq]

/-- A consume keeps the agreement: its own lane is charged alike, and no other bucket changes. -/
theorem Tracks.consume (h : Tracks c q xs now) (issuer : Json) (tier : Tier) (route : Text) :
    Tracks (c.consume q now issuer tier route).1 q (xs ++ [⟨now, issuer, tier, route⟩]) now where
  distinct := h.distinct.consume q now issuer tier route
  live_eq other path m hm := by
    rw [window_consume, ofKey_append, consume_eq_charge]
    -- under its own key the lane is charged as the bucket is, under others both are left
    by_cases hkey : bucketKey other path = bucketKey issuer route
    · have hown : ofKey (bucketKey issuer route) [⟨now, issuer, tier, route⟩]
          = [⟨now, issuer, tier, route⟩] := ofKey_self _
      have hget : (c.set issuer route (Bucket.charge c.window q now tier
          (c.get? issuer route)).1).get? other path
          = some (Bucket.charge c.window q now tier (c.get? issuer route)).1 := by
        rw [get?_eq_of_key hkey]
        exact get?_set c issuer route _
      rw [hget, hkey, hown, lane_concat, h.charge_eq]
    · have hother : ofKey (bucketKey other path) [⟨now, issuer, tier, route⟩] = [] :=
        ofKey_of_ne (Ne.symm hkey)
      rw [hother, List.append_nil, get?_set_of_ne c hkey]
      exact h.live_eq other path m hm

end IssuerGate.Counters
