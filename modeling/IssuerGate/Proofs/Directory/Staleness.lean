import IssuerGate.Proofs.Directory.Resolve
import IssuerGate.Proofs.Directory.Roster
import IssuerGate.Proofs.Run
import Mathlib.Data.List.Induction

/-!
# IssuerGate — how old an answer of the directory can be

The cache outlives what happens to the store: members come, go and change, lookups fail and recover,
entries expire, are swept or stay. A run puts a directory in front of a roster and lets all of this
happen in any order, with a clock that does not go back.

* **`backed_after`** — each cached entry goes back to a lookup of the run that found its identity,
  one lifetime before the entry ends.
* **`not_holds_after`** — a roster that does not hold an identity under a key does not come to hold
  it unless it is put back.
* **`outcome_ne_of_gone`** — what is gone is not served a lifetime later.
* **`resolve_of_run`** — so an answer is never older than a lifetime, an absent issuer and a failed
  lookup are never remembered, and an identity that is gone is not served a lifetime later.
-/

namespace IssuerGate

namespace Directory

/-! ## Runs in front of a roster -/

/-- What can happen to a directory and its roster: resolutions, changes of the members, outages and
their ends, evictions at any reading. -/
inductive Action where
  | resolve (key : Text)
  | put (m : Roster.Member)
  | remove (keyHash : Text)
  | fail (outage : Option Outage)
  | evict (reading : Int)
deriving Repr

/-- Something that happens at a reading of the clock. -/
structure Call where
  now : Int
  action : Action
deriving Repr

/-- One call; only resolutions are answered. -/
def perform (w : Directory × Roster) (c : Call) : Step (Directory × Roster) (Option Resolution) :=
  match c.action with
  | .resolve key =>
    let x := w.1.resolve c.now w.2.find key
    ⟨(x.state, w.2), x.log, some x.answer⟩
  | .put m => ⟨(w.1, w.2.put m), [], none⟩
  | .remove keyHash => ⟨(w.1, w.2.remove keyHash), [], none⟩
  | .fail outage => ⟨(w.1, w.2.fail outage), [], none⟩
  | .evict reading => ⟨(w.1.evict reading, w.2), [], none⟩

/-- A resolution of a key that begins a lookup of its hash, in which the roster finds an active
issuer of this identity. -/
def Finds (w : Directory × Roster) (now : Int) (key : Text) (i : Identity) : Prop :=
  (w.1.resolve now w.2.find key).answer.asked = true ∧ w.2.outage = none ∧ w.2.HoldsFor key i

/-- Puts an active issuer of this identity under the hash of the key. -/
def PutsBack (key : Text) (i : Identity) : Action → Prop
  | .put m => ApiKey.hash key = .ok m.keyHash ∧ m.active = true ∧ m.found.identity = i
  | _ => False

/-- An issuer that the directory asks for is found by the roster now. -/
theorem finds_of_ask {w : Directory × Roster} {now : Int} {key : Text} {f : Found}
    (hcached : w.1.cached? now key = none) (hask : (w.1.ask w.2.find key).2.2 = .ok (some f)) :
    Finds w now key f.identity := by
  obtain ⟨hasked, keyHash, hkey, hfinding⟩ := ask_eq_ok hask
  obtain ⟨houtage, hactive⟩ := Roster.finding_eq_ok hfinding
  refine ⟨?_, houtage, keyHash, hkey, f, hactive, rfl⟩
  rw [answer_resolve_of_uncached hcached]
  exact hasked

theorem settings_after (w : Directory × Roster) (calls : List Call) :
    (Run.after perform w calls).1.ttlMs = w.1.ttlMs
      ∧ (Run.after perform w calls).1.patience = w.1.patience := by
  refine Run.after_invariant
    (fun w' : Directory × Roster => w'.1.ttlMs = w.1.ttlMs ∧ w'.1.patience = w.1.patience)
    (fun w' c hw' => ?_) ⟨rfl, rfl⟩ calls
  obtain ⟨now, action⟩ := c
  cases action with
  | resolve key =>
    obtain ⟨httl, hpatience⟩ := settings_resolve w'.1 now w'.2.find key
    exact ⟨httl.trans hw'.1, hpatience.trans hw'.2⟩
  | put m => exact hw'
  | remove keyHash => exact hw'
  | fail outage => exact hw'
  | evict reading => exact hw'

/-! ## Evidence for cached entries -/

/-- A resolution of the key in the run, at some reading, that found the identity. -/
def LookedUp (start : Directory × Roster) (past : List Call) (t : Int) (key : Text)
    (i : Identity) : Prop :=
  ∃ before rest, past = before ++ ⟨t, .resolve key⟩ :: rest
    ∧ Finds (Run.after perform start before) t key i

variable {start : Directory × Roster}

theorem LookedUp.concat {past : List Call} {t : Int} {key : Text} {i : Identity}
    (h : LookedUp start past t key i) (c : Call) : LookedUp start (past ++ [c]) t key i := by
  obtain ⟨before, rest, hpast, hfinds⟩ := h
  exact ⟨before, rest ++ [c], by rw [hpast, List.append_assoc, List.cons_append], hfinds⟩

/-- **Each cached entry goes back to a lookup of the run, one lifetime before the entry ends.** -/
theorem backed_after (hstart : start.1.entries = []) (past : List Call) :
    (Run.after perform start past).1.Backed (LookedUp start past) := by
  -- from the back: the last call may learn one entry, which its own look-up backs
  induction past using List.reverseRecOn with
  | nil =>
    intro e he
    rw [Run.after_nil, hstart] at he
    cases he
  | append_singleton past c ih =>
    have hkept := ih.mono fun t key i h => LookedUp.concat h c
    rw [Run.after_concat]
    obtain ⟨now, action⟩ := c
    cases action with
    | resolve key =>
      refine hkept.resolve fun f hcached hask => ?_
      exact ⟨past, [], rfl, finds_of_ask hcached hask⟩
    | put m => exact hkept
    | remove keyHash => exact hkept
    | fail outage => exact hkept
    | evict reading => exact hkept.evict reading

/-! ## Identities that are gone -/

/-- A roster comes to hold an identity for a key only if it is put back. -/
theorem not_holds_perform {w : Directory × Roster} {key : Text} {i : Identity}
    (h : ¬ w.2.HoldsFor key i) {c : Call} (hc : ¬ PutsBack key i c.action) :
    ¬ (perform w c).state.2.HoldsFor key i := by
  obtain ⟨now, action⟩ := c
  cases action with
  | resolve key => exact h
  | put m =>
    rintro ⟨keyHash, hkey, f, hactive, hi⟩
    have hput : (w.2.put m).active? keyHash = some f := hactive
    rw [Roster.active?_put] at hput
    split at hput
    -- the member put opens the key: then this very call puts the identity back
    · next hsame =>
      split at hput
      · next hm => exact hc ⟨by rw [hkey, hsame], hm, by rw [Option.some.inj hput, hi]⟩
      · cases hput
    · exact h ⟨keyHash, hkey, f, hput, hi⟩
  | remove other =>
    rintro ⟨keyHash, hkey, f, hactive, hi⟩
    have hremove : (w.2.remove other).active? keyHash = some f := hactive
    rw [Roster.active?_remove] at hremove
    split at hremove
    · cases hremove
    · exact h ⟨keyHash, hkey, f, hremove, hi⟩
  | fail outage => exact h
  | evict reading => exact h

/-- An identity that is gone stays gone unless it is put back. -/
theorem not_holds_after {w : Directory × Roster} {key : Text} {i : Identity}
    (h : ¬ w.2.HoldsFor key i) {calls : List Call}
    (hcalls : ∀ c ∈ calls, ¬ PutsBack key i c.action) :
    ¬ (Run.after perform w calls).2.HoldsFor key i := by
  induction calls generalizing w with
  | nil => exact h
  | cons c calls ih =>
    rw [Run.after_cons]
    exact ih (not_holds_perform h (hcalls c (by simp)))
      fun d hd => hcalls d (List.mem_cons_of_mem c hd)

/-- A lookup that found an identity which was gone by some moment was made before that moment. -/
theorem LookedUp.mem_before {before rest : List Call} {t : Int} {key : Text} {i : Identity}
    (h : LookedUp start (before ++ rest) t key i)
    (hgone : ¬ (Run.after perform start before).2.HoldsFor key i)
    (hrest : ∀ c ∈ rest, ¬ PutsBack key i c.action) : ⟨t, .resolve key⟩ ∈ before := by
  obtain ⟨earlier, later, hsplit, -, -, hholds⟩ := h
  rcases List.append_eq_append_iff.mp hsplit with
    ⟨between, hearlier, htail⟩ | ⟨between, hbefore, htail⟩
  · -- the lookup lies after the moment, where the identity is still gone
    have hbetween : ∀ c ∈ between, ¬ PutsBack key i c.action := fun c hc =>
      hrest c (by rw [htail]; exact List.mem_append_left _ hc)
    rw [hearlier, Run.after_append] at hholds
    exact absurd hholds (not_holds_after hgone hbetween)
  · cases between with
    | nil =>
      rw [List.append_nil] at hbefore
      rw [hbefore] at hgone
      exact absurd hholds hgone
    | cons c between =>
      rw [List.cons_append, List.cons.injEq] at htail
      rw [hbefore, htail.1]
      simp

/-! ## Answers -/

/-- An answer that names an issuer comes from this call's own lookup, or from one of this key less
than a lifetime ago. -/
theorem finds_or_lookedUp (hstart : start.1.entries = []) (past : List Call) (now : Int)
    (key : Text) {i : Identity}
    (h : ((Run.after perform start past).1.resolve now (Run.after perform start past).2.find
      key).answer.outcome = .ok (some i)) :
    Finds (Run.after perform start past) now key i
      ∨ ∃ t, now < t + start.1.ttlMs ∧ LookedUp start past t key i := by
  generalize hw : Run.after perform start past = w at h ⊢
  have hbacked := backed_after hstart past
  have httl := (settings_after start past).1
  rw [hw] at hbacked httl
  rcases resolve_eq_some h with hcached | ⟨hcached, f, hask, hi⟩
  · obtain ⟨t, hlt, hlooked⟩ := hbacked.of_cached hcached
    rw [httl] at hlt
    exact Or.inr ⟨t, hlt, hlooked⟩
  · rw [← hi]
    exact Or.inl (finds_of_ask hcached hask)

/-- **What is gone from the roster is not served a lifetime later**, or ever again where entries have
no lifetime. -/
theorem outcome_ne_of_gone (hstart : start.1.entries = []) {before rest : List Call} {gone now : Int}
    {key : Text} {i : Identity} (hbefore : ∀ c ∈ before, c.now ≤ gone ∧ c.now ≤ now)
    (hgone : ¬ (Run.after perform start before).2.HoldsFor key i)
    (hrest : ∀ c ∈ rest, ¬ PutsBack key i c.action)
    (hlater : gone + start.1.ttlMs ≤ now ∨ start.1.ttlMs ≤ 0) :
    ((Run.after perform start (before ++ rest)).1.resolve now
      (Run.after perform start (before ++ rest)).2.find key).answer.outcome ≠ .ok (some i) := by
  intro hi
  -- it is still gone now, so only an earlier lookup could have found it, and that is too long ago
  have hgoneNow : ¬ (Run.after perform start (before ++ rest)).2.HoldsFor key i := by
    rw [Run.after_append]
    exact not_holds_after hgone hrest
  rcases finds_or_lookedUp hstart (before ++ rest) now key hi with hfinds | ⟨t, hlt, hlooked⟩
  · exact hgoneNow hfinds.2.2
  · obtain ⟨htGone, htNow⟩ := hbefore _ (hlooked.mem_before hgone hrest)
    dsimp only at htGone htNow
    omega

/-- A key that no encoding carries is never looked for: it has no hash, and so nobody could have been
cached for it. -/
theorem resolve_of_unencodable (hstart : start.1.entries = []) (past : List Call) (now : Int)
    {key : Text} {f : Utf8.Unencodable} (hkey : ApiKey.hash key = .error f) :
    ((Run.after perform start past).1.resolve now (Run.after perform start past).2.find key).answer
      = ⟨false, .error (.unanswered (.failed f.message))⟩ := by
  -- no look-up was ever made under such a key, so nothing is held for it
  have hsome (i : Identity) : ((Run.after perform start past).1.resolve now
      (Run.after perform start past).2.find key).answer.outcome ≠ .ok (some i) := by
    intro hi
    have hhash : ∃ keyHash, ApiKey.hash key = .ok keyHash := by
      rcases finds_or_lookedUp hstart past now key hi with hfinds | ⟨_, -, _, _, -, hfinds⟩
      · exact hfinds.2.2.imp fun _ h => h.1
      · exact hfinds.2.2.imp fun _ h => h.1
    obtain ⟨keyHash, hhash⟩ := hhash
    rw [hkey] at hhash
    cases hhash
  rw [answer_resolve_of_ne_some hsome rfl, ask_of_unencodable hkey]
  rfl

/-- **No answer is older than a lifetime.** A named issuer was found by this call or by an earlier
one of the key at most a lifetime ago; an absent issuer and a failed lookup are this call's own, and
a key that no encoding carries is never anything but a failed lookup; and an identity that is gone
from the roster is not served a lifetime later, or ever again where entries have no lifetime. -/
theorem resolve_of_run (ttlMs : Int) (patience : Patience) (sweepMs opened : Int) (roster : Roster)
    (past : List Call) (now : Int) (key : Text)
    (hclock : Run.Ordered Call.now (past ++ [⟨now, .resolve key⟩])) :
    let begun := (Directory.start ttlMs patience sweepMs opened, roster)
    let w := Run.after perform begun past
    let x := (w.1.resolve now w.2.find key).answer
    (∀ i, x.outcome = .ok (some i) →
        Finds w now key i ∨ ∃ t, t ≤ now ∧ now < t + ttlMs ∧ LookedUp begun past t key i)
      ∧ (x.outcome = .ok none →
        x.asked = true ∧ w.2.outage = none
          ∧ ∃ keyHash, ApiKey.hash key = .ok keyHash ∧ w.2.active? keyHash = none)
      ∧ (∀ e, x.outcome = .error (.unanswered e) → Unanswered w.1 w.2.find key x.asked e)
      ∧ (∀ f, ApiKey.hash key = .error f →
        x = ⟨false, .error (.unanswered (.failed f.message))⟩)
      ∧ ∀ i gone before rest, past = before ++ rest → (∀ c ∈ before, c.now ≤ gone) →
        ¬ (Run.after perform begun before).2.HoldsFor key i →
        (∀ c ∈ rest, ¬ PutsBack key i c.action) → gone + ttlMs ≤ now ∨ ttlMs ≤ 0 →
        x.outcome ≠ .ok (some i) := by
  intro begun w x
  have hempty : begun.1.entries = [] := rfl
  rw [Run.ordered_concat] at hclock
  refine ⟨fun i hi => ?_, fun hnone => ?_, fun e he => resolve_eq_unanswered he,
    fun f hf => resolve_of_unencodable hempty past now hf, ?_⟩
  -- found now, or held since a look-up that is less than the time to live ago
  · rcases finds_or_lookedUp hempty past now key hi with hfinds | ⟨t, hlt, hlooked⟩
    · exact Or.inl hfinds
    · have hmem : ⟨t, .resolve key⟩ ∈ past := by
        obtain ⟨before, rest, hpast, -⟩ := hlooked
        rw [hpast]
        simp
      exact Or.inr ⟨t, hclock.2 _ hmem, hlt, hlooked⟩
  · obtain ⟨hasked, keyHash, hkey, hfinding⟩ := resolve_eq_none hnone
    obtain ⟨houtage, hactive⟩ := Roster.finding_eq_ok hfinding
    exact ⟨hasked, houtage, keyHash, hkey, hactive⟩
  · intro i gone before rest hpast hbefore hgone hrest hlater
    subst hpast
    -- once gone, it is served by what was learned before, and that has run out
    have hboth : ∀ c ∈ before, c.now ≤ gone ∧ c.now ≤ now := fun c hc =>
      ⟨hbefore c hc, hclock.2 c (List.mem_append_left rest hc)⟩
    exact outcome_ne_of_gone hempty hboth hgone hrest hlater

/-- An issuer that was looked up, cached and then removed is gone a lifetime later. -/
theorem resolve_of_run_of_removed :
    let key : Text := "k"
    let i : Identity := ⟨.ofString "a", .paid⟩
    let roster : Roster := ⟨[⟨ApiKey.digest key, ⟨.ofString "a", .ofString "paid"⟩, true⟩], none⟩
    let before : List Call := [⟨0, .resolve key⟩, ⟨10, .remove (ApiKey.digest key)⟩]
    let rest : List Call := [⟨90, .resolve key⟩]
    let w := Run.after perform (Directory.start 100 (.ofInt 2) 60000 0, roster) (before ++ rest)
    Run.Ordered Call.now (before ++ rest ++ [⟨110, .resolve key⟩])
      ∧ (w.1.resolve 110 w.2.find key).answer.outcome ≠ .ok (some i) := by
  intro key i roster before rest w
  have hclock : Run.Ordered Call.now (before ++ rest ++ [⟨110, .resolve key⟩]) := by decide
  obtain ⟨-, -, -, -, hlater⟩ :=
    resolve_of_run 100 (.ofInt 2) 60000 0 roster (before ++ rest) 110 key hclock
  have hgone : ¬ (Run.after perform (Directory.start 100 (.ofInt 2) 60000 0, roster)
      before).2.HoldsFor key i := by
    rintro ⟨keyHash, hkey, f, hactive, -⟩
    obtain ⟨-, rfl⟩ := ApiKey.hash_eq_ok_iff.mp hkey
    -- the lookup leaves the roster alone, so the removal is all that happens to it
    have hremoved : (roster.remove (ApiKey.digest key)).active? (ApiKey.digest key) = some f :=
      hactive
    rw [Roster.active?_remove, if_pos rfl] at hremoved
    cases hremoved
  have hbefore : ∀ c ∈ before, c.now ≤ 10 := by decide
  have hrest : ∀ c ∈ rest, ¬ PutsBack key i c.action := by
    intro c hc
    rw [List.mem_singleton.mp hc]
    exact id
  refine ⟨hclock, ?_⟩
  dsimp only [w]
  exact hlater i 10 before rest rfl hbefore hgone hrest (Or.inl (by decide))

end Directory

end IssuerGate
