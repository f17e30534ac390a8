import IssuerGate.Proofs.Issuer.Draft
import IssuerGate.Proofs.Run

/-!
# IssuerGate — a plain list of records

What a store of issuers is meant to be: a list of records that lives nowhere but in memory. It is
never written or read, so it has no lines, no escapes and no bounds, and it looks at the clock only
to date new records.

* **`Roll.perform`** — what the list answers, and what becomes of it.
* **`Roll.getElem?_after`** — a record keeps its place in each run, and all but its tier and its
  active flag.
-/

namespace IssuerGate.Issuer

namespace Store

/-- What a store is asked. -/
inductive Action where
  | create (d : Draft)
  | update (id : Text) (c : Change)
  | get (id : Text)
  | find (keyHash : Text)
  | list

structure Call where
  now : Calendar.Instant
  action : Action

inductive Reply where
  | created (a : Answer (Record × Text))
  | updated (a : Answer (Option Record))
  | found (a : Answer (Option Record))
  | listed (a : Answer (List Record))

/-- One call of a store, beside the mint that draws for new issuers. -/
def perform (s : Store × Mint) (c : Call) : Step (Store × Mint) Reply :=
  match c.action with
  | .create d =>
    let x := s.1.create s.2 c.now d
    ⟨x.state, x.log, .created x.answer⟩
  | .update id change =>
    let x := s.1.update c.now id change
    ⟨(x.state, s.2), x.log, .updated x.answer⟩
  | .get id =>
    let (log, a) := s.1.get c.now id
    ⟨s, log, .found a⟩
  | .find keyHash =>
    let (log, a) := s.1.findActive c.now keyHash
    ⟨s, log, .found a⟩
  | .list =>
    let (log, a) := s.1.list c.now
    ⟨s, log, .listed a⟩

end Store

/-- A list of records, in the order in which they were created. -/
abbrev Roll := List Record

namespace Roll

/-- One call of the list, beside the mint. A record is added at the end, if an encoding can carry
it; a change is of the tier and the active flag of the first record with the id; and what is asked
for is found from the front. -/
def perform (s : Roll × Mint) (c : Store.Call) : Step (Roll × Mint) Store.Reply :=
  match c.action with
  | .create d =>
    let (mint, issued) := s.2.issue d.publicKey
    let r := Record.ofDraft d issued (Calendar.textUtc c.now)
    if d.isEncodable && issued.id.isEncodable then
      ⟨(s.1 ++ [r], mint), [], .created (.ok (r, issued.apiKey))⟩
    else ⟨(s.1, mint), [], .created (.error (.unwritable .unencodable))⟩
  | .update id change =>
    match s.1.findIdx? (·.hasId id) with
    | none => ⟨s, [], .updated (.ok none)⟩
    | some i =>
      let roll := s.1.modify i fun r =>
        { r with tier := change.tier.getD r.tier, active := change.active.getD r.active }
      ⟨(roll, s.2), [], .updated (.ok roll[i]?)⟩
  | .get id => ⟨s, [], .found (.ok (s.1.find? (·.hasId id)))⟩
  | .find keyHash => ⟨s, [], .found (.ok (s.1.find? (·.opensWith keyHash)))⟩
  | .list => ⟨s, [], .listed (.ok s.1)⟩

/-! ## Records through a run -/

end Roll

/-- The record is another one but for its tier and its active flag. -/
def Record.IsVersionOf (r old : Record) : Prop :=
  r = { old with tier := r.tier, active := r.active }

namespace Roll

/-- One call leaves each record in its place, but for its tier and its active flag. -/
theorem getElem?_perform {s : Roll × Mint} {i : Nat} {r : Record} (h : s.1[i]? = some r)
    (c : Store.Call) : ∃ r', (perform s c).state.1[i]? = some r' ∧ r'.IsVersionOf r := by
  obtain ⟨now, action⟩ := c
  -- a creation appends, a change keeps every place, the readings keep all
  cases action with
  | create d =>
    unfold perform
    dsimp only
    split
    · refine ⟨r, ?_, rfl⟩
      rw [List.getElem?_append_left (List.getElem?_eq_some_iff.mp h).1]
      exact h
    · exact ⟨r, h, rfl⟩
  | update id change =>
    unfold perform
    dsimp only
    split
    · exact ⟨r, h, rfl⟩
    · next j _ =>
      dsimp only
      rw [List.getElem?_modify, h, Option.map_eq_map, Option.map_some]
      refine ⟨_, rfl, ?_⟩
      split <;> rfl
  | get id => exact ⟨r, h, rfl⟩
  | find keyHash => exact ⟨r, h, rfl⟩
  | list => exact ⟨r, h, rfl⟩

/-- **A record keeps its place in each run**, and all but its tier and its active flag. -/
theorem getElem?_after {s : Roll × Mint} {i : Nat} {r : Record} (h : s.1[i]? = some r)
    (calls : List Store.Call) :
    ∃ r', (Run.after perform s calls).1[i]? = some r' ∧ r'.IsVersionOf r := by
  induction calls generalizing s r with
  | nil => exact ⟨r, h, rfl⟩
  | cons c calls ih =>
    obtain ⟨r', hr', hversion⟩ := getElem?_perform h c
    obtain ⟨r'', hr'', hlater⟩ := ih hr'
    refine ⟨r'', hr'', ?_⟩
    unfold Record.IsVersionOf at hversion hlater ⊢
    rw [hlater, hversion]

/-- What a create gives is at the end of the list, and opens with the key that it gives. -/
theorem of_created {s : Roll × Mint} {now : Calendar.Instant} {d : Draft} {r : Record} {key : Text}
    (h : (perform s ⟨now, .create d⟩).answer = .created (.ok (r, key))) :
    (perform s ⟨now, .create d⟩).state.1 = s.1 ++ [r]
      ∧ ∃ keyHash, ApiKey.hash key = .ok keyHash ∧ r.keyHash = .str keyHash := by
  unfold perform at h ⊢
  dsimp only at h ⊢
  split at h
  · next hcoded =>
    rw [if_pos hcoded]
    obtain ⟨rfl, rfl⟩ := Prod.mk.inj (Except.ok.inj (Store.Reply.created.inj h))
    exact ⟨rfl, _, Mint.hash_apiKey_issue s.2 d.publicKey, rfl⟩
  · cases Store.Reply.created.inj h

/-- A record that opens with a key hash, and before which none does, is the one that is found. -/
theorem find?_opensWith {roll : Roll} {i : Nat} {r : Record} {keyHash : Text}
    (h : roll[i]? = some r) (hopens : r.opensWith keyHash = true)
    (hearlier : ∀ q ∈ roll.take i, q.opensWith keyHash = false) :
    roll.find? (·.opensWith keyHash) = some r := by
  obtain ⟨hi, hget⟩ := List.getElem?_eq_some_iff.mp h
  rw [List.find?_eq_some_iff_append]
  refine ⟨hopens, roll.take i, roll.drop (i + 1), ?_, fun q hq => ?_⟩
  · rw [← hget, List.getElem_cons_drop hi, List.take_append_drop]
  · rw [hearlier q hq]
    rfl

end Roll

end IssuerGate.Issuer
