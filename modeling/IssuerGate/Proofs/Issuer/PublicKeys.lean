import IssuerGate.Proofs.Issuer.Interchange
import Mathlib.Data.List.Induction

/-!
# IssuerGate — public keys of issuers

An issuer brings its public key or is given one. A table takes no key twice; a file takes what it is
given.

* **`map_publicKey_after`** — the public keys of a list of records are those that were handed out
  for it, in order.
* **`distinctPublicKeys_after`** — those of a table are distinct.
* **`publicKeys_of_run`** — so the keys in a file are distinct only as far as those handed out are,
  and those in a table are anyway.
* **`publicKeys_repeated`** — two issuers that bring the same key both have it.
-/

namespace IssuerGate.Issuer

/-! ## What is handed out -/

/-- The public key of the issuer that a create has made. -/
def Store.Reply.publicKey? : Store.Reply → Option Json
  | .created (.ok (r, _)) => some r.publicKey
  | _ => none

/-- The public keys of the issuers that the creates of a run have made, in order. -/
def Store.handedOut (lines : List (Store.Call × Store.Reply)) : List Json :=
  lines.filterMap fun line => line.2.publicKey?

/-- One more line hands out one key at most. -/
theorem Store.handedOut_concat (lines : List (Store.Call × Store.Reply))
    (line : Store.Call × Store.Reply) :
    Store.handedOut (lines ++ [line]) = Store.handedOut lines ++ line.2.publicKey?.toList := by
  unfold Store.handedOut
  rw [List.filterMap_append]
  cases hkey : line.2.publicKey? with
  | none => simp [hkey]
  | some key => simp [hkey]

/-! ## Lists -/

theorem map_publicKey_changeFirst (id : Text) (c : Change) (roll : Roll) :
    (changeFirst id c roll).map Record.publicKey = roll.map Record.publicKey := by
  induction roll with
  | nil => rfl
  | cons r roll ih =>
    rw [changeFirst]
    split
    · rfl
    · rw [List.map_cons, List.map_cons, ih]

/-- One call adds the public key that it hands out, and changes none. -/
theorem map_publicKey_perform (s : Roll × Mint) (c : Store.Call) :
    (Roll.perform s c).state.1.map Record.publicKey
      = s.1.map Record.publicKey ++ (Roll.perform s c).answer.publicKey?.toList := by
  obtain ⟨now, action⟩ := c
  -- a creation that succeeds hands a key out, and nothing else does
  cases action with
  | create d =>
    unfold Roll.perform
    dsimp only
    split
    · rw [List.map_append]
      rfl
    · exact (List.append_nil _).symm
  | update id change =>
    rw [Roll.perform_update, map_publicKey_changeFirst]
    exact (List.append_nil _).symm
  | get id => exact (List.append_nil _).symm
  | find keyHash => exact (List.append_nil _).symm
  | list => exact (List.append_nil _).symm

/-- **The public keys of a list are those that were handed out for it.** -/
theorem map_publicKey_after (mint : Mint) (calls : List Store.Call) :
    (Run.after Roll.perform ([], mint) calls).1.map Record.publicKey
      = Store.handedOut (Run.transcript Roll.perform ([], mint) calls) := by
  induction calls using List.reverseRecOn with
  | nil => rfl
  | append_singleton calls c ih =>
    rw [Run.after_concat, Run.transcript_concat, Store.handedOut_concat, map_publicKey_perform, ih]

/-- A store that starts with no file behaves as a list without records. -/
theorem transcript_of_nothing (path : Text) (mint : Mint) (calls : List Store.Call) :
    Keeps (Run.after Store.perform (.file ⟨path, none⟩, mint) calls)
        (Run.after Roll.perform ([], mint) calls)
      ∧ Run.transcript Store.perform (.file ⟨path, none⟩, mint) calls
        = Run.transcript Roll.perform ([], mint) calls := by
  have hkeeps : Keeps (.file ⟨path, none⟩, mint) ([], mint) := ⟨_, rfl, holds_nothing path⟩
  exact transcript_of_keeps hkeeps calls

/-- A file that started with nothing lists the public keys that were handed out. -/
theorem publicKeys_file_after (path : Text) (mint : Mint) (calls : List Store.Call)
    (later : Calendar.Instant) :
    let s : Store × Mint := (.file ⟨path, none⟩, mint)
    ∃ rs, ((Run.after Store.perform s calls).1.list later).2 = .ok rs
      ∧ rs.map Record.publicKey = Store.handedOut (Run.transcript Store.perform s calls) := by
  intro s
  obtain ⟨hafter, htranscript⟩ := transcript_of_nothing path mint calls
  have hlisted : Store.Reply.listed ((Run.after Store.perform s calls).1.list later).2
      = .listed (.ok (Run.after Roll.perform ([], mint) calls).1) :=
    answer_of_keeps hafter ⟨later, .list⟩
  refine ⟨_, Store.Reply.listed.inj hlisted, ?_⟩
  rw [htranscript, map_publicKey_after]

/-! ## Tables -/

theorem map_publicKey_change (rows : Table) (id : Text) (c : Change) :
    (rows.change id c).map Row.publicKey = rows.map Row.publicKey := by
  unfold Table.change
  rw [List.map_map]
  refine List.map_congr_left fun r _ => ?_
  show (if r.id = id then r.apply c else r).publicKey = r.publicKey
  split <;> rfl

/-- A store is a table whose rows have different public keys. -/
def DistinctPublicKeys (s : Store × Mint) : Prop :=
  ∃ rows : Table, s.1 = .table (some rows) ∧ (rows.map Row.publicKey).Nodup

/-- No call puts a second row under a public key: a creation is the only one to bring a row, and is
checked for it. -/
theorem DistinctPublicKeys.perform {s : Store × Mint} (h : DistinctPublicKeys s) (c : Store.Call) :
    DistinctPublicKeys (Store.perform s c).state := by
  obtain ⟨store, mint⟩ := s
  obtain ⟨rows, rfl, hdistinct⟩ := h
  obtain ⟨now, action⟩ := c
  cases action with
  | create d =>
    show DistinctPublicKeys (Store.create (.table (some rows)) mint now d).state
    rcases Store.create_table_cases mint now d (some rows) with
      ⟨e, hfail⟩ | ⟨_, r, hsame, -, -, hclash, hdone⟩
    · rw [hfail]
      exact ⟨rows, rfl, hdistinct⟩
    · obtain rfl := Option.some.inj hsame
      obtain ⟨-, hfresh, -⟩ := Table.clash?_eq_none_iff.mp hclash
      rw [hdone]
      refine ⟨rows ++ [r], rfl, ?_⟩
      rw [List.map_append, List.map_singleton]
      -- a row with the new key would have kept it out
      refine List.nodup_append.mpr ⟨hdistinct, List.nodup_singleton _, ?_⟩
      intro key hkey other hother
      obtain ⟨q, hq, rfl⟩ := List.mem_map.mp hkey
      rw [List.mem_singleton.mp hother]
      exact hfresh q hq
  | update id change =>
    show DistinctPublicKeys ((Store.update (.table (some rows)) now id change).state, mint)
    rcases Store.update_table_cases now id change (some rows) with ⟨e, hfail⟩ | ⟨_, hsame, -, hdone⟩
    · rw [hfail]
      exact ⟨rows, rfl, hdistinct⟩
    · obtain rfl := Option.some.inj hsame
      rw [hdone]
      refine ⟨rows.change id change, rfl, ?_⟩
      rw [map_publicKey_change]
      exact hdistinct
  | get id => exact ⟨rows, rfl, hdistinct⟩
  | find keyHash => exact ⟨rows, rfl, hdistinct⟩
  | list => exact ⟨rows, rfl, hdistinct⟩

/-- **No two rows of a table have the same public key.** -/
theorem distinctPublicKeys_after (mint : Mint) (calls : List Store.Call) :
    DistinctPublicKeys (Run.after Store.perform (.table (some []), mint) calls) :=
  Run.after_invariant DistinctPublicKeys (fun _ c h => h.perform c) ⟨[], rfl, List.nodup_nil⟩ calls

/-! ## Both -/

/-- A key that is brought is handed out as it is. -/
theorem publicKey_of_created {s : Roll × Mint} {now : Calendar.Instant} {d : Draft} {pk : Text}
    (hbrought : d.publicKey = some pk) (hne : pk ≠ []) {r : Record} {key : Text}
    (h : (Roll.perform s ⟨now, .create d⟩).answer = .created (.ok (r, key))) :
    r.publicKey = .str pk := by
  have hissued : (s.2.issue d.publicKey).2.publicKey = pk := by
    unfold Mint.issue
    rw [hbrought, Option.filter_some_pos (by simpa using hne)]
  unfold Roll.perform at h
  dsimp only at h
  split at h
  · obtain ⟨rfl, -⟩ := Prod.mk.inj (Except.ok.inj (Store.Reply.created.inj h))
    exact congrArg Json.str hissued
  · cases Store.Reply.created.inj h

/-- **Public keys are distinct in a table, and in a file only as far as those handed out are.** Both
stores start without issuers, and are asked the same.

* After any calls the file lists, in order, the public keys of all issuers that were created in it.
* A key that an issuer brought is among them as it was brought, whoever else has it.
* The table has no key twice. -/
theorem publicKeys_of_run (path : Text) (mint : Mint) (calls : List Store.Call) :
    let s : Store × Mint := (.file ⟨path, none⟩, mint)
    let lines := Run.transcript Store.perform s calls
    (∀ later, ∃ rs, ((Run.after Store.perform s calls).1.list later).2 = .ok rs
        ∧ rs.map Record.publicKey = Store.handedOut lines)
      ∧ (∀ line ∈ lines, ∀ d pk r key, line.1.action = .create d → d.publicKey = some pk → pk ≠ [] →
        line.2 = .created (.ok (r, key)) → r.publicKey = .str pk)
      ∧ ∃ rows : Table, (Run.after Store.perform (.table (some []), mint) calls).1
          = .table (some rows) ∧ (rows.map Row.publicKey).Nodup := by
  intro s lines
  refine ⟨publicKeys_file_after path mint calls, ?_, distinctPublicKeys_after mint calls⟩
  dsimp only [lines, s]
  -- the file answers as a list does, which keeps a key that was brought
  rw [(transcript_of_nothing path mint calls).2]
  refine Run.forall_mem_transcript (fun t c d pk r key haction hbrought hne hreply => ?_) ([], mint)
    calls
  obtain ⟨now, action⟩ := c
  obtain rfl : action = .create d := haction
  exact publicKey_of_created hbrought hne hreply

/-! ## Two issuers with one key -/

/-- Two issuers that bring the same public key. -/
def creationsOfOneKey : List Store.Call :=
  [⟨5, .create { name := some "a", publicKey := some "p" }⟩,
    ⟨6, .create { name := some "b", publicKey := some "p" }⟩]

theorem handedOut_creationsOfOneKey (path : Text) :
    let lines := Run.transcript Store.perform (.file ⟨path, none⟩, { source := .counting })
      creationsOfOneKey
    Store.handedOut lines = [.str "p", .str "p"] ∧ ∀ line ∈ lines, line.2.fault? = none := by
  intro lines
  dsimp only [lines]
  rw [(transcript_of_nothing path _ creationsOfOneKey).2]
  refine ⟨rfl, ?_⟩
  decide +kernel

/-- The file has the key twice. The table, which refuses it the second time, has it once. -/
theorem publicKeys_of_run_of_one_key :
    let s : Store × Mint := (.file ⟨"issuers.jsonl", none⟩, { source := .counting })
    (∀ later, ∃ rs, ((Run.after Store.perform s creationsOfOneKey).1.list later).2 = .ok rs
        ∧ rs.map Record.publicKey = [.str "p", .str "p"])
      ∧ ∃ rows : Table,
        (Run.after Store.perform (.table (some []), { source := .counting }) creationsOfOneKey).1
          = .table (some rows) ∧ (rows.map Row.publicKey).Nodup := by
  intro s
  obtain ⟨hlisted, -, htable⟩ :=
    publicKeys_of_run "issuers.jsonl" { source := .counting } creationsOfOneKey
  refine ⟨fun later => ?_, htable⟩
  obtain ⟨rs, hrs, hkeys⟩ := hlisted later
  exact ⟨rs, hrs, hkeys.trans (handedOut_creationsOfOneKey "issuers.jsonl").1⟩

/-- Does the call write? -/
def Store.Action.writes : Store.Action → Bool
  | .create _ | .update _ _ => true
  | .get _ | .find _ | .list => false

/-- **A file does not keep public keys apart**: it is not so that after creates and updates that all
succeed no two of its records have the same one. -/
theorem publicKeys_repeated :
    ¬ ∀ (path : Text) (mint : Mint) (calls : List Store.Call),
      (∀ c ∈ calls, c.action.writes = true) →
      (∀ line ∈ Run.transcript Store.perform (.file ⟨path, none⟩, mint) calls,
        line.2.fault? = none) →
      ∀ later rs, ((Run.after Store.perform (.file ⟨path, none⟩, mint) calls).1.list later).2
        = .ok rs → (rs.map Record.publicKey).Nodup := by
  intro hdistinct
  obtain ⟨hgiven, hproper⟩ := handedOut_creationsOfOneKey "issuers.jsonl"
  obtain ⟨rs, hrs, hkeys⟩ :=
    publicKeys_file_after "issuers.jsonl" { source := .counting } creationsOfOneKey 7
  have hnodup := hdistinct "issuers.jsonl" { source := .counting } creationsOfOneKey (by decide)
    hproper 7 rs hrs
  rw [hkeys, hgiven] at hnodup
  exact (List.nodup_cons.mp hnodup).1 List.mem_cons_self

end IssuerGate.Issuer
