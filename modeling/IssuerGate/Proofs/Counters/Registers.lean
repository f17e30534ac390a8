import IssuerGate.Proofs.Counters.Charge
import IssuerGate.Proofs.Counters.Keys
import IssuerGate.Proofs.Run

/-!
# IssuerGate — buckets and owners in two registers

A slot holds a bucket beside the issuer and the route that opened it, so no bucket is without an
owner. Where the two are kept apart, each in a register under the same key, nothing in the data says
so: a report fails at a bucket whose owner is not there, and a sweep at an entry that is gone.

* **`Registers`** — the counters in two registers, with operations that look up, put and take out one
  entry at a time.
* **`Matched`**, **`Swept`** — what it is to be filled alike, and what a sweep then leaves.
* **`perform?_ofSlots`** — registers that are filled alike do in a call what the counters do.
* **`run?_ofSlots`** — so no call of a run ever misses an entry, and the registers stay filled alike.
-/

namespace IssuerGate

/-! ## One register -/

/-- Entries under keys, in the order in which the keys were first put. -/
abbrev Register (α : Type) := List (Text × α)

namespace Register

variable {α : Type}

def lookup? (key : Text) (r : Register α) : Option α := (r.find? (·.1 = key)).map (·.2)

/-- Puts an entry: in the place of its key, or at the end. -/
def put (key : Text) (a : α) : Register α → Register α
  | [] => [(key, a)]
  | e :: rest => if e.1 = key then (e.1, a) :: rest else e :: put key a rest

/-- Takes out the entry of a key, if there is one. -/
def takeOut? (key : Text) (r : Register α) : Option (Register α) :=
  if (lookup? key r).isSome then some (r.filter (·.1 ≠ key)) else none

/-- The register of what slots hold, under their keys. -/
def ofSlots (f : Slot → α) (slots : List Slot) : Register α := slots.map fun s => (s.key, f s)

theorem lookup?_ofSlots (f : Slot → α) (slots : List Slot) (key : Text) :
    lookup? key (ofSlots f slots) = (slots.find? (·.key = key)).map f := by
  unfold lookup? ofSlots
  rw [List.find?_map, Option.map_map]
  rfl

theorem filter_ofSlots (f : Slot → α) (slots : List Slot) (p : Text × α → Bool) :
    (ofSlots f slots).filter p = ofSlots f (slots.filter fun s => p (s.key, f s)) :=
  List.filter_map

/-- A key that is there is taken out with its slot. -/
theorem takeOut?_ofSlots (f : Slot → α) {slots : List Slot} {key : Text}
    (h : key ∈ slots.map Slot.key) :
    takeOut? key (ofSlots f slots) = some (ofSlots f (slots.filter (·.key ≠ key))) := by
  have hsome : (lookup? key (ofSlots f slots)).isSome = true := by
    obtain ⟨s, hs, hkey⟩ := List.mem_map.mp h
    rw [lookup?_ofSlots, Option.isSome_map, List.find?_isSome]
    exact ⟨s, hs, decide_eq_true hkey⟩
  unfold takeOut?
  rw [if_pos hsome, filter_ofSlots]

/-- Setting the bucket of a slot puts it into the register of the buckets. -/
theorem ofSlots_bucket_setSlot (issuer : Json) (route : Text) (b : Bucket) (slots : List Slot) :
    ofSlots Slot.bucket (Counters.setSlot issuer route b slots)
      = put (bucketKey issuer route) b (ofSlots Slot.bucket slots) := by
  induction slots with
  | nil => rfl
  | cons s slots ih =>
    rw [Counters.setSlot]
    show _ = if s.key = bucketKey issuer route then _ else _
    split
    · rfl
    · exact congrArg ((s.key, s.bucket) :: ·) ih

/-- It puts an owner into the other register only where there was none. -/
theorem ofSlots_owner_setSlot (issuer : Json) (route : Text) (b : Bucket) (slots : List Slot) :
    ofSlots (fun s => (s.issuer, s.route)) (Counters.setSlot issuer route b slots)
      = if (slots.find? (·.key = bucketKey issuer route)).isSome then
          ofSlots (fun s => (s.issuer, s.route)) slots
        else put (bucketKey issuer route) (issuer, route)
          (ofSlots (fun s => (s.issuer, s.route)) slots) := by
  induction slots with
  | nil => rfl
  | cons s slots ih =>
    rw [Counters.setSlot, List.find?_cons]
    -- a key that is there keeps its owner, a new one is put at the end
    by_cases hs : s.key = bucketKey issuer route
    · rw [if_pos hs, decide_eq_true hs]
      rfl
    · rw [if_neg hs, decide_eq_false hs]
      show (s.key, (s.issuer, s.route)) :: ofSlots _ (Counters.setSlot issuer route b slots) = _
      rw [ih]
      split
      · rfl
      · show _ = if s.key = bucketKey issuer route then _ else _
        rw [if_neg hs]
        rfl

end Register

namespace Counters

/-! ## Calls -/

/-- What counters can be asked. -/
inductive Action where
  | consume (issuer : Json) (tier : Tier) (route : Text)
  | sweep
  | snapshot
  | get (issuer : Json) (route : Text)
deriving Repr

/-- Something that counters are asked at a reading of the clock. -/
structure Call where
  now : Int
  action : Action
deriving Repr

inductive Answer where
  | charged (outcome : Except Binary64.Fault Verdict)
  | swept (dropped : Nat)
  | shown (slots : List Slot)
  | stored (bucket : Option Bucket)

/-- One call of counters, under a quota that stays the same. -/
def perform (q : Quota) (c : Counters) (call : Call) : Step Counters Answer :=
  match call.action with
  | .consume issuer tier route =>
    let x := c.consume q call.now issuer tier route
    ⟨x.1, [], .charged x.2⟩
  | .sweep => ⟨c.sweep call.now, [], .swept (c.expired call.now)⟩
  | .snapshot => ⟨c, [], .shown (c.snapshot call.now)⟩
  | .get issuer route => ⟨c, [], .stored (c.get? issuer route)⟩

theorem DistinctKeys.perform {c : Counters} (h : c.DistinctKeys) (q : Quota) (call : Call) :
    (perform q c call).state.DistinctKeys := by
  obtain ⟨now, action⟩ := call
  cases action with
  | consume issuer tier route => exact h.consume q now issuer tier route
  | sweep => exact h.sweep now
  | snapshot => exact h
  | get issuer route => exact h

end Counters

/-! ## Two registers -/

/-- Buckets and owners under their keys, and the window of the buckets. -/
structure Registers where
  window : Int
  buckets : Register Bucket
  owners : Register (Json × Text)

namespace Registers

open Counters Register

def ofWindow (ms : Int) : Registers := ⟨max 1 ms, [], []⟩

/-- Charges the bucket of a key. Its owner is noted when it is opened. -/
def consume (g : Registers) (q : Quota) (now : Int) (issuer : Json) (tier : Tier) (route : Text) :
    Registers × Except Binary64.Fault Verdict :=
  let key := bucketKey issuer route
  let found := lookup? key g.buckets
  let charged := Bucket.charge g.window q now tier found
  (⟨g.window, put key charged.1 g.buckets,
      if found.isSome then g.owners else put key (issuer, route) g.owners⟩,
    charged.2)

/-- The running windows, each under the name of its owner, unless one has none. -/
def snapshot? (g : Registers) (now : Int) : Option (List Slot) :=
  (g.buckets.filter (·.2.isLive g.window now)).mapM fun e =>
    (lookup? e.1 g.owners).map fun owner => ⟨owner.1, owner.2, e.2⟩

/-- Takes a key out of both registers. -/
def drop? (g : Registers) (key : Text) : Option Registers := do
  let buckets ← takeOut? key g.buckets
  let owners ← takeOut? key g.owners
  return ⟨g.window, buckets, owners⟩

/-- The keys of the buckets whose windows have elapsed. -/
def stale (g : Registers) (now : Int) : List Text :=
  (g.buckets.filter (!·.2.isLive g.window now)).map (·.1)

/-- Takes the elapsed buckets out, one after the other. -/
def sweep? (g : Registers) (now : Int) : Option Registers := (g.stale now).foldlM drop? g

/-- One call, unless an entry is missing. -/
def perform? (q : Quota) (g : Registers) (call : Call) : Option (Registers × Answer) :=
  match call.action with
  | .consume issuer tier route =>
    let x := g.consume q call.now issuer tier route
    some (x.1, .charged x.2)
  | .sweep => (g.sweep? call.now).map fun g' => (g', .swept (g.stale call.now).length)
  | .snapshot => (g.snapshot? call.now).map fun slots => (g, .shown slots)
  | .get issuer route => some (g, .stored (lookup? (bucketKey issuer route) g.buckets))

/-- What a run leaves and what it answers, unless an entry is missing on the way. -/
def run? (q : Quota) (g : Registers) : List Call → Option (Registers × List Answer)
  | [] => some (g, [])
  | call :: calls => do
    let (next, answer) ← g.perform? q call
    let (last, answers) ← next.run? q calls
    return (last, answer :: answers)

/-- Both registers are filled from the same slots. -/
def ofSlots (window : Int) (slots : List Slot) : Registers where
  window := window
  buckets := Register.ofSlots Slot.bucket slots
  owners := Register.ofSlots (fun s => (s.issuer, s.route)) slots

/-- Both registers have the same keys, each once, and a key is that of the owner under it. -/
structure Matched (g : Registers) : Prop where
  keys_eq : g.owners.map (·.1) = g.buckets.map (·.1)
  nodup : (g.buckets.map (·.1)).Nodup
  key_eq : ∀ e ∈ g.owners, e.1 = bucketKey e.2.1 e.2.2

/-- Two registers made of the same slots have the same keys. -/
theorem matched_ofSlots {c : Counters} (h : c.DistinctKeys) :
    (ofSlots c.window c.slots).Matched where
  keys_eq := by
    unfold ofSlots Register.ofSlots
    rw [List.map_map, List.map_map]
    rfl
  nodup := by
    unfold ofSlots Register.ofSlots
    rw [List.map_map]
    exact h
  key_eq e he := by
    obtain ⟨s, -, rfl⟩ := List.mem_map.mp he
    rfl

/-- A sweep takes out exactly the buckets that the report before it leaves out, and the report after
it is the same and shows all that is left. -/
structure Swept (g : Registers) (now : Int) (shown : List Slot) (left : Registers) : Prop where
  snapshot_eq : g.snapshot? now = some shown
  sweep_eq : g.sweep? now = some left
  mem_iff : ∀ e, e ∈ left.buckets ↔ e ∈ g.buckets ∧ e.1 ∈ shown.map Slot.key
  snapshot_left : left.snapshot? now = some shown
  length_left : left.buckets.length = shown.length

/-! ## A call -/

/-- A consume writes both registers as it writes the slots. -/
theorem consume_ofSlots (c : Counters) (q : Quota) (now : Int) (issuer : Json) (tier : Tier)
    (route : Text) :
    (ofSlots c.window c.slots).consume q now issuer tier route
      = (ofSlots c.window (c.consume q now issuer tier route).1.slots,
        (c.consume q now issuer tier route).2) := by
  -- the bucket register is looked up, and the other asked only whether the key is there
  have hfound : lookup? (bucketKey issuer route) (ofSlots c.window c.slots).buckets
      = c.get? issuer route := lookup?_ofSlots Slot.bucket c.slots _
  have hstored : (c.get? issuer route).isSome
      = (c.slots.find? (·.key = bucketKey issuer route)).isSome := Option.isSome_map
  rw [consume_eq_charge]
  unfold consume
  dsimp only
  rw [hfound, hstored]
  show (Registers.mk _ _ _, _) = (Registers.mk _ (Register.ofSlots _ (setSlot _ _ _ _))
    (Register.ofSlots _ (setSlot _ _ _ _)), _)
  rw [ofSlots_bucket_setSlot, ofSlots_owner_setSlot]
  rfl

/-- The owner of a bucket is found under its key. -/
theorem lookup?_owner {slots : List Slot} (h : (slots.map Slot.key).Nodup) {s : Slot}
    (hs : s ∈ slots) :
    lookup? s.key (Register.ofSlots (fun s => (s.issuer, s.route)) slots)
      = some (s.issuer, s.route) := by
  rw [lookup?_ofSlots, Keyed.find?_of_mem h hs]
  rfl

/-- A snapshot finds an owner for each of the running buckets. -/
theorem snapshot?_ofSlots {c : Counters} (h : c.DistinctKeys) (now : Int) :
    (ofSlots c.window c.slots).snapshot? now = some (c.snapshot now) := by
  unfold snapshot? ofSlots
  dsimp only
  rw [filter_ofSlots]
  show (List.map _ (c.snapshot now)).mapM _ = _
  -- the slots that are shown are all among those of the owners
  have hshown : ∀ s ∈ c.snapshot now, s ∈ c.slots := fun s hs => (List.mem_filter.mp hs).1
  generalize c.snapshot now = shown at hshown ⊢
  induction shown with
  | nil => rfl
  | cons s slots ih =>
    obtain ⟨hs, hslots⟩ := List.forall_mem_cons.mp hshown
    rw [List.map_cons, List.mapM_cons, lookup?_owner h hs, ih hslots]
    rfl

theorem drop?_ofSlots (window : Int) {slots : List Slot} {key : Text}
    (h : key ∈ slots.map Slot.key) :
    (ofSlots window slots).drop? key = some (ofSlots window (slots.filter (·.key ≠ key))) := by
  unfold drop? ofSlots
  dsimp only
  rw [takeOut?_ofSlots Slot.bucket h, takeOut?_ofSlots _ h]
  rfl

/-- Keys that are there can be taken out one after the other. -/
theorem foldlM_drop?_ofSlots (window : Int) {keys : List Text} (hkeys : keys.Nodup)
    {slots : List Slot} (h : ∀ key ∈ keys, key ∈ slots.map Slot.key) :
    keys.foldlM drop? (ofSlots window slots)
      = some (ofSlots window (slots.filter (·.key ∉ keys))) := by
  induction keys generalizing slots with
  | nil => simp
  | cons key keys ih =>
    obtain ⟨hkey, hrest⟩ := List.forall_mem_cons.mp h
    rw [List.nodup_cons] at hkeys
    -- the keys are distinct, so those behind the first are still there once it is dropped
    have hlater : ∀ k ∈ keys, k ∈ (slots.filter (·.key ≠ key)).map Slot.key := by
      intro k hk
      obtain ⟨s, hs, rfl⟩ := List.mem_map.mp (hrest k hk)
      have hne : s.key ≠ key := fun heq => hkeys.1 (heq ▸ hk)
      exact List.mem_map_of_mem (List.mem_filter.mpr ⟨hs, decide_eq_true hne⟩)
    have hboth : (slots.filter (·.key ≠ key)).filter (·.key ∉ keys)
        = slots.filter (·.key ∉ key :: keys) := by
      rw [List.filter_filter]
      apply List.filter_congr
      intro s _
      simp [not_or, Bool.and_comm]
    rw [List.foldlM_cons, drop?_ofSlots window hkey, ← hboth]
    exact ih hkeys.2 hlater

/-- The keys to be dropped are those of the slots that have run out. -/
theorem stale_ofSlots (c : Counters) (now : Int) :
    (ofSlots c.window c.slots).stale now
      = (c.slots.filter (!c.isLive now ·.bucket)).map Slot.key := by
  unfold stale ofSlots
  dsimp only
  rw [filter_ofSlots]
  exact List.map_map

/-- **A sweep leaves what a snapshot shows.** -/
theorem sweep?_ofSlots {c : Counters} (h : c.DistinctKeys) (now : Int) :
    (ofSlots c.window c.slots).sweep? now = some (ofSlots c.window (c.snapshot now)) := by
  have helapsed : (c.slots.filter (!c.isLive now ·.bucket)).Sublist c.slots := List.filter_sublist
  have hkept : c.slots.filter (·.key ∉ (c.slots.filter (!c.isLive now ·.bucket)).map Slot.key)
      = c.snapshot now := by
    apply List.filter_congr
    intro s hs
    -- a live slot has no elapsed one of its key beside it
    have hmem : s.key ∈ (c.slots.filter (!c.isLive now ·.bucket)).map Slot.key
        ↔ c.isLive now s.bucket = false := by
      constructor
      · intro hkey
        obtain ⟨t, ht, hsame⟩ := List.mem_map.mp hkey
        obtain ⟨htmem, hover⟩ := List.mem_filter.mp ht
        rw [← List.inj_on_of_nodup_map h htmem hs hsame]
        simpa using hover
      · intro hover
        exact List.mem_map_of_mem (List.mem_filter.mpr ⟨hs, by rw [hover]; rfl⟩)
    cases hlive : c.isLive now s.bucket <;> simp [hmem, hlive]
  unfold sweep?
  rw [stale_ofSlots, foldlM_drop?_ofSlots c.window (h.sublist (helapsed.map Slot.key))
    fun key hkey => (helapsed.map Slot.key).subset hkey, hkept]

/-- A sweep leaves what the snapshot shows, at the same reading of the clock. -/
theorem swept_ofSlots {c : Counters} (h : c.DistinctKeys) (now : Int) :
    (ofSlots c.window c.slots).Swept now (c.snapshot now)
      (ofSlots c.window (c.sweep now).slots) where
  snapshot_eq := snapshot?_ofSlots h now
  sweep_eq := sweep?_ofSlots h now
  mem_iff e := by
    show e ∈ (c.snapshot now).map _ ↔ e ∈ c.slots.map _ ∧ _
    constructor
    · intro he
      obtain ⟨s, hs, rfl⟩ := List.mem_map.mp he
      exact ⟨List.mem_map_of_mem (List.mem_filter.mp hs).1, List.mem_map_of_mem hs⟩
    · rintro ⟨he, hkey⟩
      obtain ⟨s, hs, rfl⟩ := List.mem_map.mp he
      obtain ⟨t, ht, hsame⟩ := List.mem_map.mp hkey
      -- the slot that is shown under the key is the one of the bucket
      rw [← List.inj_on_of_nodup_map h (List.mem_filter.mp ht).1 hs hsame]
      exact List.mem_map_of_mem ht
  snapshot_left := by
    rw [← c.snapshot_sweep now]
    exact snapshot?_ofSlots (h.sweep now) now
  length_left := List.length_map _

theorem length_stale_ofSlots (c : Counters) (now : Int) :
    ((ofSlots c.window c.slots).stale now).length = c.expired now := by
  have hparts := List.length_eq_length_filter_add (l := c.slots) (c.isLive now ·.bucket)
  rw [stale_ofSlots, List.length_map]
  show _ = c.slots.length - (c.slots.filter (c.isLive now ·.bucket)).length
  omega

/-- **A call of registers that are filled alike** is one of the counters, and leaves them so. -/
theorem perform?_ofSlots {c : Counters} (h : c.DistinctKeys) (q : Quota) (call : Call) :
    (ofSlots c.window c.slots).perform? q call
      = some (ofSlots c.window (perform q c call).state.slots, (perform q c call).answer) := by
  obtain ⟨now, action⟩ := call
  unfold perform?
  -- one lemma a call, and none of the four misses a key
  cases action with
  | consume issuer tier route =>
    dsimp only
    rw [consume_ofSlots]
    rfl
  | sweep =>
    dsimp only
    rw [sweep?_ofSlots h, length_stale_ofSlots]
    rfl
  | snapshot =>
    dsimp only
    rw [snapshot?_ofSlots h]
    rfl
  | get issuer route =>
    dsimp only
    rw [show (ofSlots c.window c.slots).buckets = Register.ofSlots Slot.bucket c.slots from rfl,
      lookup?_ofSlots]
    rfl

/-! ## A run -/

theorem window_perform (q : Quota) (c : Counters) (call : Call) :
    (perform q c call).state.window = c.window := by
  obtain ⟨now, action⟩ := call
  cases action with
  | consume issuer tier route => exact window_consume c q now issuer tier route
  | sweep => rfl
  | snapshot => rfl
  | get issuer route => rfl

/-- **No run misses an entry.** What it leaves is filled alike, and its answers are those of the
counters. -/
theorem run?_ofSlots {c : Counters} (h : c.DistinctKeys) (q : Quota) (calls : List Call) :
    (ofSlots c.window c.slots).run? q calls
      = some (ofSlots c.window (Run.after (perform q) c calls).slots,
        (Run.transcript (perform q) c calls).map (·.2)) := by
  induction calls generalizing c with
  | nil => rfl
  | cons call calls ih =>
    -- the first call leaves two registers of the same slots again
    have hnext := ih (h.perform q call)
    rw [window_perform] at hnext
    unfold run?
    rw [perform?_ofSlots h]
    show (Option.bind ((ofSlots c.window (perform q c call).state.slots).run? q calls) _) = _
    rw [hnext]
    rfl

end Registers

end IssuerGate
