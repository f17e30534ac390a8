import IssuerGate.ApiKey
import IssuerGate.Binary64.Decimal
import IssuerGate.Log
import IssuerGate.Tier

/-!
The directory of issuers by API key: a short cache in front of a durable store.

Only found issuers are cached. A lookup that fails is an error of its own and not an absent issuer,
so that the caller can choose between letting the request pass and turning it away. How long a
lookup may take is set in seconds, and the directory is also right where such a time cannot be
measured or written.
-/

namespace IssuerGate

/-- Who a caller is. -/
structure Identity where
  id : Json
  tier : Tier
deriving Repr

/-- What a store holds of an active issuer, as stored. -/
structure Found where
  id : Json
  tier : Json
deriving Repr

/-- Who the issuer is: a stored tier that names none means the free one. -/
def Found.identity (f : Found) : Identity := ⟨f.id, .ofStored f.tier⟩

/-- Why a store does not answer. -/
inductive Outage where
  | timedOut
  | failed (message : Text)
deriving DecidableEq, Repr

/-- What a store says to a lookup, and what it logs on the way. A store that answers at once keeps
nobody waiting. -/
structure Lookup where
  log : Log
  finding : Except Outage (Option Found)
  atOnce : Bool := false

/-- How many seconds a lookup may take: a double, or a whole number of a sign beyond all doubles. -/
inductive Patience where
  | seconds (x : Binary64)
  | beyond (negative : Bool)
deriving DecidableEq, Repr

/-- So many seconds. -/
def Patience.ofInt (i : Int) : Patience :=
  match Binary64.ofInt? i with
  | some x => seconds x
  | none => beyond (i < 0)

/-- A lookup that did not get an answer. -/
inductive LookupError where
  | timedOut (seconds : Binary64)
  | failed (message : Text)
deriving DecidableEq, Repr

def LookupError.message : LookupError → Text
  | timedOut s => Text.ofString "issuer lookup timed out after " ++ s.onePlace ++ Text.ofString "s"
  | failed m => Text.ofString "issuer lookup failed: " ++ m

/-- A tenth of a millisecond, and what is no number, is over before a store that keeps the caller
waiting can answer. -/
def isTooBrief (seconds : Binary64) : Bool :=
  match seconds with
  | .nan _ => true
  | .infinite s => s
  | .finite s m e => let (n, d) := Binary64.ratio s m e; n * 10000 ≤ d

/-- The finding of a lookup that may take some seconds. -/
def Lookup.within (l : Lookup) (seconds : Binary64) : Except LookupError (Option Found) :=
  if !l.atOnce && isTooBrief seconds then .error (.timedOut seconds)
  else
    match l.finding with
    | .ok found => .ok found
    | .error .timedOut => .error (.timedOut seconds)
    | .error (.failed m) => .error (.failed m)

/-- Why a key is not resolved: nobody answered, or the time that passed is no number to write. -/
inductive Directory.Fault where
  | unanswered (e : LookupError)
  | number (f : Binary64.Fault)
deriving DecidableEq, Repr

def Directory.Fault.message : Directory.Fault → Text
  | unanswered e => e.message
  | number f => f.message

/-- An issuer found for a key, valid as long as the clock is before `validUntil`. -/
structure Directory.Entry where
  key : Text
  identity : Identity
  validUntil : Int
deriving Repr

/-- The cached entries, each found once, and when they were last swept. -/
structure Directory where
  ttlMs : Int
  patience : Patience
  sweepMs : Int
  entries : List Directory.Entry
  lastSweep : Int
deriving Repr

namespace Directory

/-- The whole milliseconds of a fraction of seconds. -/
def ttlOfSeconds (x : Binary64) : Except Binary64.Fault Int :=
  (x.mul (.ofDecimal false 1 3)).truncate

/-- An empty directory from a moment on. -/
def start (ttlMs : Int) (patience : Patience) (sweepMs now : Int) : Directory where
  ttlMs := ttlMs
  patience := patience
  sweepMs := sweepMs
  entries := []
  lastSweep := now

def size (d : Directory) : Nat := d.entries.length

/-- The cached identity of a key, while it is valid. -/
def cached? (d : Directory) (now : Int) (key : Text) : Option Identity :=
  (d.entries.find? (·.key = key)).bind fun e => if now < e.validUntil then some e.identity else none

/-- A directory starts without entries. -/
theorem cached?_start (ttlMs : Int) (patience : Patience) (sweepMs opened now : Int) (key : Text) :
    (start ttlMs patience sweepMs opened).cached? now key = none := rfl

/-- A cached identity is that of a valid entry of the key. -/
theorem exists_entry_of_cached? {d : Directory} {now : Int} {key : Text} {i : Identity}
    (h : d.cached? now key = some i) : ∃ e ∈ d.entries, e.key = key ∧ e.identity = i
      ∧ now < e.validUntil := by
  obtain ⟨e, he, hi⟩ := Option.bind_eq_some_iff.mp h
  have hkey := List.find?_some he
  by_cases hv : now < e.validUntil
  · exact ⟨e, List.mem_of_find?_eq_some he, by simpa using hkey, by simpa [hv] using hi, hv⟩
  · simp [hv] at hi

/-- Sets the entry of a key: in its old place, or at the end. -/
def setEntry (e : Entry) : List Entry → List Entry
  | [] => [e]
  | f :: rest => if f.key = e.key then e :: rest else f :: setEntry e rest

/-- An entry that was set is found under its key. -/
theorem find?_setEntry (e : Entry) (es : List Entry) :
    (setEntry e es).find? (·.key = e.key) = some e := by
  induction es with
  | nil => simp [setEntry]
  | cons f es ih =>
    by_cases hf : f.key = e.key
    · simp [setEntry, hf]
    · simp [setEntry, hf, ih]

/-- Under another key the entry of before is found. -/
theorem find?_setEntry_of_ne {e : Entry} {key : Text} (h : key ≠ e.key) (es : List Entry) :
    (setEntry e es).find? (·.key = key) = es.find? (·.key = key) := by
  induction es with
  | nil => simp [setEntry, h.symm]
  | cons f es ih =>
    by_cases hf : f.key = e.key
    · simp [setEntry, hf, h.symm]
    · rw [setEntry, if_neg hf, List.find?_cons, List.find?_cons, ih]

/-- Drops the entries that are no longer valid. -/
def evict (d : Directory) (now : Int) : Directory :=
  { d with entries := d.entries.filter fun e => now < e.validUntil }

/-- The number of entries that an eviction drops. -/
def expired (d : Directory) (now : Int) : Nat := d.size - (d.evict now).size

/-- Evicts if the last sweep is long enough ago. -/
def sweepIfDue (d : Directory) (now : Int) : Step Directory Unit :=
  if now - d.lastSweep < d.sweepMs then ⟨d, [], ()⟩
  else
    let evicted := d.expired now
    ⟨{ d.evict now with lastSweep := now },
      if evicted = 0 then []
      else Log.debug ["Evicted ", Text.ofNat evicted, " expired issuer cache entries"], ()⟩

/-- Asks the store for a key hash, within the time allowed; no time allowed means that the store is
not asked. The answer says whether a lookup was begun. -/
def askFor (d : Directory) (find : Text → Lookup) (keyHash : Text) :
    Log × Bool × Except Fault (Option Found) :=
  match d.patience with
  -- a time beyond doubles can be compared with zero but neither waited for nor written
  | .beyond true => ([], false, .error (.number .tooLarge))
  | .beyond false =>
    ([], false, .error (.unanswered (.failed Binary64.Fault.tooLarge.message)))
  | .seconds x =>
    if x.isNonPositive then ([], false, .error (.unanswered (.timedOut x)))
    else
      let l := find keyHash
      (l.log, true, (l.within x).mapError .unanswered)

/-- Asks the store for the hash of a key. A key that no encoding carries has none: its lookup has
failed before it is begun. -/
def ask (d : Directory) (find : Text → Lookup) (key : Text) :
    Log × Bool × Except Fault (Option Found) :=
  match ApiKey.hash key with
  | .error f => ([], false, .error (.unanswered (.failed f.message)))
  | .ok keyHash => d.askFor find keyHash

/-- The answer to a key, and whether a lookup was begun for it. -/
structure Resolution where
  asked : Bool
  outcome : Except Fault (Option Identity)

/-- Who holds a key: from the cache while it is valid, else from the store. -/
def resolve (d : Directory) (now : Int) (find : Text → Lookup) (key : Text) :
    Step Directory Resolution :=
  match d.cached? now key with
  | some identity => ⟨d, [], ⟨false, .ok (some identity)⟩⟩
  | none =>
    let swept := d.sweepIfDue now
    let d := swept.state
    match d.ask find key with
    | (log, asked, .error e) => ⟨d, swept.log ++ log, ⟨asked, .error e⟩⟩
    -- an unknown key is asked for again each time
    | (log, asked, .ok none) => ⟨d, swept.log ++ log, ⟨asked, .ok none⟩⟩
    | (log, asked, .ok (some found)) =>
      let identity := found.identity
      ⟨{ d with entries := setEntry ⟨key, identity, now + d.ttlMs⟩ d.entries }, swept.log ++ log,
        ⟨asked, .ok (some identity)⟩⟩

end Directory

end IssuerGate
