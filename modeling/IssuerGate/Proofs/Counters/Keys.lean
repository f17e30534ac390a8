import IssuerGate.Counters
import IssuerGate.Proofs.Keyed

/-!
# IssuerGate — the keys of the usage buckets

A bucket is found by the text `issuer:route`. Two facts make that text a name:

* **`DistinctKeys`** — no two slots have the same key. Every operation keeps this, so a look-up sees
  all that the counters hold for a key, also after a sweep (`get?_sweep`).
* **`bucketKey_inj_of_issuers`**, **`bucketKey_inj_of_routes`** — the text tells issuers and routes
  apart if the issuers have no colon, or if the routes have none. Where both have colons it does
  not (`bucketKey_collides`).
-/

namespace IssuerGate

/-! ## Issuers and routes behind a key -/

/-- Issuers without a colon are told apart: the key is cut at its first colon. -/
theorem bucketKey_inj_of_issuers {i j : Json} {r s : Text}
    (hi : .scalar ':' ∉ i.display) (hj : .scalar ':' ∉ j.display)
    (h : bucketKey i r = bucketKey j s) : i.display = j.display ∧ r = s := by
  have hcut : Text.cut? (.scalar ':') (bucketKey i r) = Text.cut? (.scalar ':') (bucketKey j s) :=
    congrArg (Text.cut? (.scalar ':')) h
  unfold bucketKey at hcut
  rw [Text.cut?_append hi, Text.cut?_append hj] at hcut
  simpa using hcut

/-- Routes without a colon are told apart: the key is cut at its last colon, which is the first
one of the reversed text. -/
theorem bucketKey_inj_of_routes {i j : Json} {r s : Text}
    (hr : .scalar ':' ∉ r) (hs : .scalar ':' ∉ s)
    (h : bucketKey i r = bucketKey j s) : i.display = j.display ∧ r = s := by
  have hrev : r.reverse ++ CodePoint.scalar ':' :: i.display.reverse
      = s.reverse ++ CodePoint.scalar ':' :: j.display.reverse := by
    have hreversed := congrArg List.reverse h
    unfold bucketKey at hreversed
    simpa using hreversed
  have hcut := congrArg (Text.cut? (.scalar ':')) hrev
  rw [Text.cut?_append (by simpa using hr), Text.cut?_append (by simpa using hs)] at hcut
  have hboth : r = s ∧ i.display = j.display := by simpa using hcut
  exact ⟨hboth.2, hboth.1⟩

/-- A colon on both sides of the cut can be read either way. -/
theorem bucketKey_collides :
    bucketKey (.ofString "a:b") (Text.ofString "c") = bucketKey (.ofString "a") (Text.ofString "b:c")
      := by
  decide

namespace Counters

/-! ## Requests by key and by pair -/

/-- A request that the counters are asked to charge. -/
structure Request where
  now : Int
  issuer : Json
  tier : Tier
  route : Text
deriving Repr

/-- The key of the bucket in which a request counts. -/
def Request.key (x : Request) : Text := bucketKey x.issuer x.route

/-- Who asks, as the issuer's id reads, and for which route. -/
def Request.pair (x : Request) : Text × Text := (x.issuer.display, x.route)

/-- The requests of one key, in order. -/
def ofKey (key : Text) (xs : List Request) : List Request := xs.filter (·.key = key)

/-- The requests of one pair, in order. -/
def ofPair (p : Text × Text) (xs : List Request) : List Request := xs.filter (·.pair = p)

theorem ofKey_append (key : Text) (xs ys : List Request) :
    ofKey key (xs ++ ys) = ofKey key xs ++ ofKey key ys :=
  List.filter_append xs ys

theorem ofKey_self (x : Request) : ofKey x.key [x] = [x] := by
  simp [ofKey]

theorem ofKey_of_ne {key : Text} {x : Request} (h : x.key ≠ key) : ofKey key [x] = [] := by
  simp [ofKey, h]

/-- No issuer has a colon, or no route has one. -/
def ColonFree (xs : List Request) : Prop :=
  (∀ x ∈ xs, .scalar ':' ∉ x.issuer.display) ∨ (∀ x ∈ xs, .scalar ':' ∉ x.route)

instance (xs : List Request) : Decidable (ColonFree xs) := inferInstanceAs (Decidable (_ ∨ _))

/-- Where one side of each key is free of colons, a key has one pair. -/
theorem ColonFree.pair_eq {xs : List Request} (h : ColonFree xs) {x y : Request} (hx : x ∈ xs)
    (hy : y ∈ xs) (hkey : x.key = y.key) : x.pair = y.pair := by
  rcases h with h | h
  · obtain ⟨hissuer, hroute⟩ := bucketKey_inj_of_issuers (h x hx) (h y hy) hkey
    exact Prod.ext hissuer hroute
  · obtain ⟨hissuer, hroute⟩ := bucketKey_inj_of_routes (h x hx) (h y hy) hkey
    exact Prod.ext hissuer hroute

theorem Request.key_eq_of_pair {x y : Request} (h : x.pair = y.pair) : x.key = y.key := by
  have hissuer : x.issuer.display = y.issuer.display := congrArg Prod.fst h
  have hroute : x.route = y.route := congrArg Prod.snd h
  unfold key bucketKey
  rw [hissuer, hroute]

/-- **Where colons allow it, the requests of a key are those of a pair.** -/
theorem ColonFree.ofKey_eq_ofPair {xs ys : List Request} (h : ColonFree xs) {x : Request}
    (hx : x ∈ xs) (hys : ∀ y ∈ ys, y ∈ xs) : ofKey x.key ys = ofPair x.pair ys := by
  unfold ofKey ofPair
  apply List.filter_congr
  intro y hy
  rw [decide_eq_decide]
  exact ⟨h.pair_eq (hys y hy) hx, Request.key_eq_of_pair⟩

/-- A bucket is stored under its key alone. -/
theorem get?_eq_of_key {issuer other : Json} {route path : Text}
    (h : bucketKey other path = bucketKey issuer route) (c : Counters) :
    c.get? other path = c.get? issuer route := by
  unfold get? find?
  rw [h]

/-! ## Distinct keys -/

/-- No two slots have the same key. -/
def DistinctKeys (c : Counters) : Prop := (c.slots.map Slot.key).Nodup

theorem distinctKeys_ofWindow (ms : Int) : (ofWindow ms).DistinctKeys := List.nodup_nil

/-- A slot after a set is a new one, one whose bucket was set, or an old one. -/
theorem mem_setSlot_cases {issuer : Json} {route : Text} {b : Bucket} {slots : List Slot} {s : Slot}
    (h : s ∈ setSlot issuer route b slots) :
    s = ⟨issuer, route, b⟩
      ∨ (∃ t ∈ slots, t.key = bucketKey issuer route ∧ s = { t with bucket := b }) ∨ s ∈ slots := by
  induction slots with
  | nil => exact Or.inl (by simpa [setSlot] using h)
  | cons t slots ih =>
    rw [setSlot] at h
    -- the write stops at the first slot of its key, or goes on to the end
    split at h
    · next ht =>
      rcases List.mem_cons.mp h with hset | hold
      · exact Or.inr (Or.inl ⟨t, by simp, ht, hset⟩)
      · exact Or.inr (Or.inr (by simp [hold]))
    · rcases List.mem_cons.mp h with hold | hlater
      · exact Or.inr (Or.inr (by simp [hold]))
      · rcases ih hlater with hnew | ⟨u, hu, hset⟩ | hold
        · exact Or.inl hnew
        · exact Or.inr (Or.inl ⟨u, by simp [hu], hset⟩)
        · exact Or.inr (Or.inr (by simp [hold]))

/-- A slot after a write is the one written, under the key that it was written to, or was there
before. -/
theorem mem_setSlot {issuer : Json} {route : Text} {b : Bucket} {slots : List Slot} {s : Slot}
    (h : s ∈ setSlot issuer route b slots) :
    s.key = bucketKey issuer route ∧ s.bucket = b ∨ s ∈ slots := by
  rcases mem_setSlot_cases h with rfl | ⟨t, -, hkey, rfl⟩ | hold
  · exact Or.inl ⟨rfl, rfl⟩
  · exact Or.inl ⟨hkey, rfl⟩
  · exact Or.inr hold

theorem mem_keys_setSlot {issuer : Json} {route : Text} {b : Bucket} {slots : List Slot}
    {key : Text} (h : key ∈ (setSlot issuer route b slots).map Slot.key) :
    key = bucketKey issuer route ∨ key ∈ slots.map Slot.key := by
  obtain ⟨s, hs, rfl⟩ := List.mem_map.mp h
  rcases mem_setSlot hs with ⟨hown, -⟩ | hold
  · exact Or.inl hown
  · exact Or.inr (List.mem_map_of_mem hold)

theorem nodup_keys_setSlot (issuer : Json) (route : Text) (b : Bucket) {slots : List Slot}
    (h : (slots.map Slot.key).Nodup) : ((setSlot issuer route b slots).map Slot.key).Nodup := by
  induction slots with
  | nil => simp [setSlot]
  | cons s slots ih =>
    rw [List.map_cons, List.nodup_cons] at h
    by_cases hs : s.key = bucketKey issuer route
    · rw [setSlot, if_pos hs, List.map_cons, List.nodup_cons]
      exact h
    -- the rest gains at most the key written, which is not that of this slot
    · rw [setSlot, if_neg hs, List.map_cons, List.nodup_cons]
      refine ⟨fun hmem => ?_, ih h.2⟩
      rcases mem_keys_setSlot hmem with hown | hold
      · exact hs hown
      · exact h.1 hold

theorem DistinctKeys.set {c : Counters} (h : c.DistinctKeys) (issuer : Json) (route : Text)
    (b : Bucket) : (c.set issuer route b).DistinctKeys :=
  nodup_keys_setSlot issuer route b h

theorem DistinctKeys.consume {c : Counters} (h : c.DistinctKeys) (q : Quota) (now : Int)
    (issuer : Json) (tier : Tier) (route : Text) :
    (c.consume q now issuer tier route).1.DistinctKeys := by
  obtain ⟨b, hb⟩ := c.consume_eq_set q now issuer tier route
  rw [hb]
  exact h.set issuer route b

theorem DistinctKeys.sweep {c : Counters} (h : c.DistinctKeys) (now : Int) :
    (c.sweep now).DistinctKeys :=
  h.sublist (List.filter_sublist.map Slot.key)

@[simp] theorem window_sweep (c : Counters) (now : Int) : (c.sweep now).window = c.window := rfl

/-- A sweep takes a bucket away exactly if its window has elapsed. -/
theorem get?_sweep {c : Counters} (h : c.DistinctKeys) (now : Int) (issuer : Json)
    (route : Text) :
    (c.sweep now).get? issuer route = (c.get? issuer route).filter (c.isLive now) := by
  have hfind :=
    Keyed.find?_filter_of_nodup h (fun s => c.isLive now s.bucket) (bucketKey issuer route)
  unfold get? find?
  show ((c.slots.filter fun s => c.isLive now s.bucket).find? _).map _ = _
  rw [hfind]
  cases c.slots.find? (·.key = bucketKey issuer route) with
  | none => rfl
  | some s => by_cases hs : c.isLive now s.bucket = true <;> simp [hs, Option.filter]

end Counters

end IssuerGate
