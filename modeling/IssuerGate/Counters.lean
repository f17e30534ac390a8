import IssuerGate.Json.Display
import IssuerGate.Quota

/-!
Usage counters: one bucket per issuer and route, each with a fixed window of its own.

A bucket is found by the text of its issuer and route, in the order in which the buckets were
opened. A consume opens or rolls over the bucket, compares its count with the limit of the caller's
tier and counts the request; the first request of a free issuer that reaches the upgrade mark is to
be nudged.
-/

namespace IssuerGate

/-- The requests admitted since a window opened, and the tier that opened it. -/
structure Bucket where
  windowStart : Int
  count : Nat
  tier : Tier
  nudged : Bool
deriving DecidableEq, Repr

/-- The text under which the bucket of an issuer and a route is kept. -/
def bucketKey (issuer : Json) (route : Text) : Text := issuer.display ++ .scalar ':' :: route

/-- A bucket with the issuer and the route that opened it. -/
structure Slot where
  issuer : Json
  route : Text
  bucket : Bucket
deriving Repr

def Slot.key (s : Slot) : Text := bucketKey s.issuer s.route

/-- The buckets of a process, oldest first, under a window of at least a millisecond. -/
structure Counters where
  window : Int
  slots : List Slot
  one_le_window : 1 ≤ window := by omega

namespace Counters

/-- No buckets, under a window of some milliseconds, or of one where there would be none. -/
def ofWindow (ms : Int) : Counters where
  window := max 1 ms
  slots := []

def size (c : Counters) : Nat := c.slots.length

/-- The slot in which the requests of an issuer on a route count. -/
def find? (c : Counters) (issuer : Json) (route : Text) : Option Slot :=
  c.slots.find? (·.key = bucketKey issuer route)

def get? (c : Counters) (issuer : Json) (route : Text) : Option Bucket :=
  (c.find? issuer route).map (·.bucket)

/-- Sets the bucket of an issuer and a route: in its place, or in a new slot at the end. -/
def setSlot (issuer : Json) (route : Text) (b : Bucket) : List Slot → List Slot
  | [] => [⟨issuer, route, b⟩]
  | s :: rest =>
    if s.key = bucketKey issuer route then { s with bucket := b } :: rest
    else s :: setSlot issuer route b rest

def set (c : Counters) (issuer : Json) (route : Text) (b : Bucket) : Counters :=
  { c with slots := setSlot issuer route b c.slots }

/-- A bucket that was set is found under its key. -/
theorem find?_setSlot (issuer : Json) (route : Text) (b : Bucket) (slots : List Slot) :
    ((setSlot issuer route b slots).find? (·.key = bucketKey issuer route)).map (·.bucket)
      = some b := by
  induction slots with
  | nil => simp [setSlot, Slot.key]
  | cons s slots ih =>
    by_cases hs : s.key = bucketKey issuer route
    · have hset : Slot.key { s with bucket := b } = bucketKey issuer route := hs
      simp [setSlot, hs, hset]
    · simp [setSlot, hs, ih]

/-- Under another key the slot of before is found. -/
theorem find?_setSlot_of_ne {issuer other : Json} {route path : Text}
    (h : bucketKey other path ≠ bucketKey issuer route) (b : Bucket) (slots : List Slot) :
    (setSlot issuer route b slots).find? (·.key = bucketKey other path)
      = slots.find? (·.key = bucketKey other path) := by
  induction slots with
  | nil => simp [setSlot, Slot.key, h.symm]
  | cons s slots ih =>
    by_cases hs : s.key = bucketKey issuer route
    · have hset : Slot.key { s with bucket := b } = bucketKey issuer route := hs
      simp [setSlot, hs, hset, h.symm]
    · rw [setSlot, if_neg hs, List.find?_cons, List.find?_cons, ih]

@[simp] theorem get?_set (c : Counters) (issuer : Json) (route : Text) (b : Bucket) :
    (c.set issuer route b).get? issuer route = some b :=
  find?_setSlot issuer route b c.slots

/-- Setting a bucket leaves those under other keys. -/
theorem get?_set_of_ne (c : Counters) {issuer other : Json} {route path : Text}
    (h : bucketKey other path ≠ bucketKey issuer route) (b : Bucket) :
    (c.set issuer route b).get? other path = c.get? other path :=
  congrArg (Option.map Slot.bucket) (find?_setSlot_of_ne h b c.slots)

@[simp] theorem window_set (c : Counters) (issuer : Json) (route : Text) (b : Bucket) :
    (c.set issuer route b).window = c.window := rfl

/-- Is the window of the bucket still running? -/
def isLive (c : Counters) (now : Int) (b : Bucket) : Bool := now - b.windowStart < c.window

/-- The bucket in which a request counts: the stored one while its window runs, else a fresh one. -/
def current (c : Counters) (now : Int) (tier : Tier) : Option Bucket → Bucket
  | none => ⟨now, 0, tier, false⟩
  | some b => if c.isLive now b then b else ⟨now, 0, tier, false⟩

/-- What a consume says: whether it was admitted, the limit it met, its bucket afterwards and
whether the issuer is to be nudged. -/
structure Verdict where
  allowed : Bool
  limit : Int
  bucket : Bucket
  nudge : Bool
deriving DecidableEq, Repr

/-- Does the request that brought the bucket to its count call for a nudge? -/
def nudges (q : Quota) (tier : Tier) (limit : Int) (b : Bucket) : Except Binary64.Fault Bool :=
  if tier = .free ∧ b.nudged = false then
    (q.upgradeMark limit).map fun (mark : Int) => decide (mark ≤ b.count)
  else .ok false

/-- Rolls over, compares and counts one request. A request whose upgrade mark is undefined has been
counted when it fails. -/
def consume (c : Counters) (q : Quota) (now : Int) (issuer : Json) (tier : Tier) (route : Text) :
    Counters × Except Binary64.Fault Verdict :=
  let limit := q.limitFor tier
  let b := c.current now tier (c.get? issuer route)
  if limit ≤ b.count then (c.set issuer route b, .ok ⟨false, limit, b, false⟩)
  else
    -- the request counts before its mark is known
    let counted := { b with count := b.count + 1 }
    match nudges q tier limit counted with
    | .error e => (c.set issuer route counted, .error e)
    | .ok nudge =>
      let after := { counted with nudged := counted.nudged || nudge }
      (c.set issuer route after, .ok ⟨true, limit, after, nudge⟩)

/-- A consume touches one bucket. -/
theorem consume_eq_set (c : Counters) (q : Quota) (now : Int) (issuer : Json) (tier : Tier)
    (route : Text) : ∃ b, (c.consume q now issuer tier route).1 = c.set issuer route b := by
  rw [consume]
  dsimp only
  split
  · exact ⟨_, rfl⟩
  · split
    · exact ⟨_, rfl⟩
    · exact ⟨_, rfl⟩

@[simp] theorem window_consume (c : Counters) (q : Quota) (now : Int) (issuer : Json) (tier : Tier)
    (route : Text) : (c.consume q now issuer tier route).1.window = c.window := by
  obtain ⟨b, hb⟩ := c.consume_eq_set q now issuer tier route
  rw [hb, window_set]

/-- The slots whose windows are running. -/
def snapshot (c : Counters) (now : Int) : List Slot := c.slots.filter fun s => c.isLive now s.bucket

/-- Drops the buckets whose windows have elapsed. -/
def sweep (c : Counters) (now : Int) : Counters := { c with slots := c.snapshot now }

/-- A sweep keeps the slots whose buckets are running. -/
theorem mem_slots_sweep {c : Counters} {now : Int} {s : Slot} :
    s ∈ (c.sweep now).slots ↔ s ∈ c.slots ∧ c.isLive now s.bucket = true := by
  simp [sweep, snapshot]

/-- A sweep leaves the running windows as they are. -/
theorem snapshot_sweep (c : Counters) (now : Int) :
    (c.sweep now).snapshot now = c.snapshot now := by
  change (c.slots.filter fun s => c.isLive now s.bucket).filter (fun s => c.isLive now s.bucket)
    = c.slots.filter fun s => c.isLive now s.bucket
  rw [List.filter_filter]
  simp

/-- The number of buckets that a sweep drops. -/
def expired (c : Counters) (now : Int) : Nat := c.size - (c.sweep now).size

end Counters

end IssuerGate
