import IssuerGate.Proofs.Issuer.Atomicity
import IssuerGate.Proofs.Issuer.Refinement

/-!
# IssuerGate — a file and a table answer alike

A table with no rows in it and a file that is not there yet may stand in for each other.

* **`Mirrors`** — a table holds what a list holds, but for the times of creation: its rows are the
  records of the list, in order, and no two of them have one id.
* **`perform_of_mirrors`** — one call that the table does not refuse is answered alike by both, and
  the table mirrors the list afterwards.
* **`Store.transcript_file_table`** — so the file, which behaves as the list does, answers each run
  as the table does.
-/

namespace IssuerGate.Issuer

/-- The record without the time of its creation. -/
def Record.undated (r : Record) : Record := { r with createdAt := .null }

/-- Two proper replies that differ in times of creation at most, and in the order of a listing. -/
def Store.Reply.SameButDates : Store.Reply → Store.Reply → Prop
  | .created (.ok (r, key)), .created (.ok (q, key')) => r.undated = q.undated ∧ key = key'
  | .updated (.ok r), .updated (.ok q) => r.map Record.undated = q.map Record.undated
  | .found (.ok r), .found (.ok q) => r.map Record.undated = q.map Record.undated
  | .listed (.ok rs), .listed (.ok qs) =>
    (rs.map Record.undated).Perm (qs.map Record.undated)
  | _, _ => False

/-! ## Rows and records -/

namespace Row

/-- What a row says but for its time of creation. -/
def undated (r : Row) : Record := r.record.undated

/-- A row has an id in the way that its record has it: as the text of its column. -/
theorem hasId_undated (id : Text) (r : Row) : r.undated.hasId id = decide (r.id = id) := by
  show (r.id == id) = decide (r.id = id)
  exact beq_eq_decide ..

/-- A row opens with a key hash iff it is active and has that very hash; a row without a hash, a
null in its record, opens with none. -/
theorem opensWith_undated (keyHash : Text) (r : Row) :
    r.undated.opensWith keyHash = (r.active && decide (r.keyHash = some keyHash)) := by
  show (r.active && (ofText? r.keyHash).isText keyHash) = _
  cases r.keyHash with
  | none => rfl
  | some h => simp [ofText?, Json.isText, beq_eq_decide]

/-- A change of a row is that change of its record; the name of a tier is read back as the tier. -/
theorem undated_apply (c : Change) (r : Row) : (r.apply c).undated = r.undated.apply c := by
  obtain ⟨tier, active⟩ := c
  cases tier with
  | none => rfl
  | some t =>
    unfold undated record apply
    dsimp only [Option.map_some, Option.getD_some]
    rw [Tier.ofStored_name]
    rfl

/-- The row of a draft and the record of it say the same but for the time at which they were made.
-/
theorem undated_rowOf {d : Draft} {name : Text} (hname : d.name = some name)
    (issued : Mint.Issued) (now : Calendar.Instant) (createdAt : Text) :
    (Table.rowOf d issued name now).undated = (Record.ofDraft d issued createdAt).undated := by
  unfold undated record Table.rowOf Record.ofDraft
  dsimp only
  rw [Tier.ofStored_name, hname]
  rfl

end Row

theorem map_undated_changeFirst (id : Text) (c : Change) (roll : Roll) :
    (changeFirst id c roll).map Record.undated = changeFirst id c (roll.map Record.undated) := by
  induction roll with
  | nil => rfl
  | cons r roll ih =>
    have hid : r.undated.hasId id = r.hasId id := rfl
    rw [changeFirst, List.map_cons, changeFirst, hid]
    -- either the change stops at this record or goes on behind it, in both lists alike
    split
    · rfl
    · rw [List.map_cons, ih]

/-- Among rows of which no two have one id, all that have an id are the first one. -/
theorem map_undated_change {rows : Table} (h : (rows.map Row.id).Nodup) (id : Text) (c : Change) :
    (rows.change id c).map Row.undated = changeFirst id c (rows.map Row.undated) := by
  induction rows with
  | nil => rfl
  | cons r rows ih =>
    obtain ⟨hr, hrows⟩ := List.nodup_cons.mp h
    unfold Table.change
    rw [List.map_cons, List.map_cons, List.map_cons, changeFirst, Row.hasId_undated]
    by_cases hid : r.id = id
    -- the list stops here, and so might the table: no later row has the id
    · have hothers : rows.map (fun q => if q.id = id then q.apply c else q) = rows := by
        refine (List.map_congr_left fun q hq => if_neg fun hq' => hr ?_).trans (List.map_id rows)
        rw [hid, ← hq']
        exact List.mem_map_of_mem hq
      rw [if_pos hid, if_pos (decide_eq_true hid), hothers, Row.undated_apply]
    · rw [if_neg hid, if_neg (by simpa using hid)]
      exact congrArg _ (ih hrows)

theorem map_id_change (id : Text) (c : Change) (rows : Table) :
    (rows.change id c).map Row.id = rows.map Row.id := by
  unfold Table.change
  rw [List.map_map]
  refine List.map_congr_left fun r _ => ?_
  show (if r.id = id then r.apply c else r).id = r.id
  split <;> rfl

/-! ## One call -/

/-- The store is a table whose rows are the records of the list but for their times of creation, each
under an id of its own; and both are beside the same mint. -/
def Mirrors (s : Roll × Mint) (t : Store × Mint) : Prop :=
  ∃ rows : Table, t = (.table (some rows), s.2)
    ∧ rows.map Row.undated = s.1.map Record.undated ∧ (rows.map Row.id).Nodup

/-- The table mirrors what becomes of the list, and both give the same answer but for dates. -/
def AgreeButDates (x : Step (Roll × Mint) Store.Reply) (y : Step (Store × Mint) Store.Reply) : Prop :=
  Mirrors x.state y.state ∧ x.answer.SameButDates y.answer

variable {roll : Roll} {rows : Table}

/-- Two searches that look for the same thing, one among rows and one among records, find the same
in a table and in the list that it mirrors. -/
theorem map_find?_of_mirrored (h : rows.map Row.undated = roll.map Record.undated)
    {p : Record → Bool} (hp : ∀ r, p r.undated = p r) {q : Row → Bool}
    (hq : ∀ r, p r.undated = q r) :
    (rows.find? q).map Row.undated = (roll.find? p).map Record.undated := by
  have hrows : (rows.map Row.undated).find? p = (rows.find? q).map Row.undated := by
    rw [List.find?_map]
    exact congrArg (fun q => (rows.find? q).map Row.undated) (funext hq)
  have hroll : (roll.map Record.undated).find? p = (roll.find? p).map Record.undated := by
    rw [List.find?_map]
    exact congrArg (fun q => (roll.find? q).map Record.undated) (funext hp)
  rw [← hrows, ← hroll, h]

/-- What has an id is the same in a table and in the list that it mirrors. -/
theorem map_get?_of_mirrored (h : rows.map Row.undated = roll.map Record.undated) (id : Text) :
    (rows.get? id).map Row.undated = (roll.find? (·.hasId id)).map Record.undated :=
  map_find?_of_mirrored h (p := (·.hasId id)) (fun _ => rfl) (Row.hasId_undated id)

/-- What opens with a key hash is the same in a table and in the list that it mirrors. -/
theorem map_findActive?_of_mirrored (h : rows.map Row.undated = roll.map Record.undated)
    (keyHash : Text) :
    (rows.findActive? keyHash).map Row.undated
      = (roll.find? (·.opensWith keyHash)).map Record.undated :=
  map_find?_of_mirrored h (p := (·.opensWith keyHash)) (fun _ => rfl)
    (Row.opensWith_undated keyHash)

/-- Two readings that find the same but for dates are proper replies of that kind. -/
theorem sameButDates_found {row? : Option Row} {record? : Option Record}
    (h : row?.map Row.undated = record?.map Record.undated) :
    (Store.Reply.found (.ok record?)).SameButDates (.found (.ok (row?.map Row.record))) := by
  show record?.map Record.undated = (row?.map Row.record).map Record.undated
  rw [Option.map_map]
  exact h.symm

variable (h : rows.map Row.undated = roll.map Record.undated) (hids : (rows.map Row.id).Nodup)
  (m : Mint) (now later : Calendar.Instant)

include h hids

/-- A creation that the table does not refuse appends the same record to both, under an id that no
row has yet. -/
theorem create_of_mirrored (d : Draft)
    (hproper : (Store.perform (.table (some rows), m) ⟨later, .create d⟩).answer.fault? = none) :
    AgreeButDates (Roll.perform (roll, m) ⟨now, .create d⟩)
      (Store.perform (.table (some rows), m) ⟨later, .create d⟩) := by
  unfold Store.perform at hproper ⊢
  dsimp only at hproper ⊢
  rcases Store.create_table_cases m later d (some rows) with
    ⟨e, hfail⟩ | ⟨_, r, hsame, hcoded, hrow, hclash, hdone⟩
  · rw [hfail] at hproper
    cases hproper
  · obtain rfl := Option.some.inj hsame
    -- the table took the row: it has a name, can be written, and its id and key are new
    obtain ⟨name, hname, rfl⟩ := Table.row_entry_eq_ok_iff.mp hrow
    obtain ⟨-, -, hfresh⟩ := Table.clash?_eq_none_iff.mp hclash
    rw [isEncodable_entry] at hcoded
    have hundated := Row.undated_rowOf hname (m.issue d.publicKey).2 later (Calendar.textUtc now)
    rw [hdone]
    unfold Roll.perform
    dsimp only
    rw [if_pos hcoded]
    refine ⟨⟨_, rfl, ?_, ?_⟩, hundated.symm, rfl⟩
    · rw [List.map_append, List.map_append, h, List.map_singleton, List.map_singleton, hundated]
    · rw [List.map_append, List.map_singleton]
      -- a row with the new id would have kept it out
      refine List.nodup_append.mpr ⟨hids, List.nodup_singleton _, fun i hi j hj => ?_⟩
      obtain ⟨q, hq, rfl⟩ := List.mem_map.mp hi
      rw [List.mem_singleton.mp hj]
      exact hfresh q hq

/-- A change that the table does not refuse meets the same record in both, or none in either. -/
theorem update_of_mirrored (id : Text) (c : Change)
    (hproper : (Store.perform (.table (some rows), m) ⟨later, .update id c⟩).answer.fault? = none) :
    AgreeButDates (Roll.perform (roll, m) ⟨now, .update id c⟩)
      (Store.perform (.table (some rows), m) ⟨later, .update id c⟩) := by
  rw [Roll.perform_update]
  unfold Store.perform at hproper ⊢
  dsimp only at hproper ⊢
  rcases Store.update_table_cases later id c (some rows) with ⟨e, hfail⟩ | ⟨_, hsame, -, hdone⟩
  · rw [hfail] at hproper
    cases hproper
  · obtain rfl := Option.some.inj hsame
    rw [hdone]
    refine ⟨⟨_, rfl, ?_, ?_⟩, ?_⟩
    · rw [map_undated_change hids, h, map_undated_changeFirst]
    · rw [map_id_change]
      exact hids
    -- both answers are the changed one of what was found before
    · have hrow : Record.undated ∘ (fun r : Row => (r.apply c).record)
          = Record.apply c ∘ Row.undated := funext (Row.undated_apply c)
      have hrecord : Record.undated ∘ Record.apply c = Record.apply c ∘ Record.undated := rfl
      show Option.map _ (Option.map _ _) = Option.map _ (Option.map _ _)
      rw [Option.map_map, Option.map_map, hrow, hrecord, ← Option.map_map, ← Option.map_map,
        map_get?_of_mirrored h]

/-- A look-up by id that the table does not refuse finds the same in both. -/
theorem get_of_mirrored (id : Text)
    (hproper : (Store.perform (.table (some rows), m) ⟨later, .get id⟩).answer.fault? = none) :
    AgreeButDates (Roll.perform (roll, m) ⟨now, .get id⟩)
      (Store.perform (.table (some rows), m) ⟨later, .get id⟩) := by
  refine ⟨⟨rows, rfl, h, hids⟩, ?_⟩
  unfold Store.perform at hproper ⊢
  dsimp only at hproper ⊢
  rcases Store.get_table_cases later id (some rows) with ⟨e, hfail⟩ | ⟨_, hsame, hdone⟩
  · rw [hfail] at hproper
    cases hproper
  · obtain rfl := Option.some.inj hsame
    rw [hdone]
    exact sameButDates_found (map_get?_of_mirrored h id)

/-- A look-up by key hash that the table does not refuse finds the same in both. -/
theorem find_of_mirrored (keyHash : Text)
    (hproper : (Store.perform (.table (some rows), m) ⟨later, .find keyHash⟩).answer.fault? = none) :
    AgreeButDates (Roll.perform (roll, m) ⟨now, .find keyHash⟩)
      (Store.perform (.table (some rows), m) ⟨later, .find keyHash⟩) := by
  refine ⟨⟨rows, rfl, h, hids⟩, ?_⟩
  unfold Store.perform at hproper ⊢
  dsimp only at hproper ⊢
  rcases Store.findActive_table_cases later keyHash (some rows) with
    ⟨e, hfail⟩ | ⟨_, hsame, hdone⟩
  · rw [hfail] at hproper
    cases hproper
  · obtain rfl := Option.some.inj hsame
    rw [hdone]
    exact sameButDates_found (map_findActive?_of_mirrored h keyHash)

/-- The table lists its rows by their times of creation, the list as they stand: the same records,
perhaps in another order. -/
theorem list_of_mirrored :
    AgreeButDates (Roll.perform (roll, m) ⟨now, .list⟩)
      (Store.perform (.table (some rows), m) ⟨later, .list⟩) := by
  refine ⟨⟨rows, rfl, h, hids⟩, ?_⟩
  show (roll.map Record.undated).Perm ((rows.sorted.map Row.record).map Record.undated)
  rw [List.map_map, ← h]
  -- sorting only permutes
  exact ((List.mergeSort_perm rows Row.before).map Row.undated).symm

omit h hids

/-- **One call that the table does not refuse is answered alike.** The clock may be read at different
times. -/
theorem perform_of_mirrors {s : Roll × Mint} {t : Store × Mint} (h : Mirrors s t)
    {c c' : Store.Call} (haction : c.action = c'.action)
    (hproper : (Store.perform t c').answer.fault? = none) :
    AgreeButDates (Roll.perform s c) (Store.perform t c') := by
  obtain ⟨roll, m⟩ := s
  obtain ⟨rows, rfl, hrows, hids⟩ := h
  obtain ⟨now, action⟩ := c
  obtain ⟨later, action'⟩ := c'
  obtain rfl : action = action' := haction
  cases action with
  | create d => exact create_of_mirrored hrows hids m now later d hproper
  | update id change => exact update_of_mirrored hrows hids m now later id change hproper
  | get id => exact get_of_mirrored hrows hids m now later id hproper
  | find keyHash => exact find_of_mirrored hrows hids m now later keyHash hproper
  | list => exact list_of_mirrored hrows hids m now later

/-! ## Runs -/

theorem mirrors_start (m : Mint) : Mirrors ([], m) (.table (some []), m) :=
  ⟨[], rfl, rfl, List.nodup_nil⟩

theorem holds_nothing (path : Text) : Holds ⟨path, none⟩ [] where
  reads _ _ _ := rfl
  lasting := List.forall_mem_nil _
  fits := List.forall_mem_nil _

/-- **A file and a table are interchangeable.** The one starts without a file, the other without a
row, and both beside the same mint. Whatever they are asked, if the table refuses none of it, then
both answer alike, each at its own readings of the clock: but for times of creation, and for the
order in which all records are listed. -/
theorem Store.transcript_file_table (path : Text) (mint : Mint) {calls others : List Call}
    (hcalls : List.Forall₂ (fun c c' => c.action = c'.action) calls others)
    (hproper : ∀ line ∈ Run.transcript perform (.table (some []), mint) others,
      line.2.fault? = none) :
    List.Forall₂ (fun x y => x.1.action = y.1.action ∧ x.2.SameButDates y.2)
      (Run.transcript perform (.file ⟨path, none⟩, mint) calls)
      (Run.transcript perform (.table (some []), mint) others) := by
  have hkeeps : Keeps (.file ⟨path, none⟩, mint) ([], mint) := ⟨_, rfl, holds_nothing path⟩
  -- the file answers as the list does, so the list may stand in for it beside the table
  rw [(transcript_of_keeps hkeeps calls).2]
  exact (Run.transcript_forall₂_of_simulation Mirrors
    (fun c c' : Call => c.action = c'.action) Reply.SameButDates (fun a => a.fault? = none)
    (fun _ _ _ _ h hcall => perform_of_mirrors h hcall) (mirrors_start mint) hcalls hproper).2

/-- An issuer is created, changed, found and listed. -/
theorem Store.transcript_file_table_of_created :
    let mint : Mint := { source := .counting }
    let key := ApiKey.ofBytes (mint.source.keyBytes 1)
    let actions : List Action :=
      [.create { name := some "a", website := some "" }, .update "b" {}, .list,
        .update "00000000-0000-4000-8000-000000000001" { tier := some .paid },
        .get "00000000-0000-4000-8000-000000000001", .find (ApiKey.digest key)]
    let calls : List Call := actions.map (⟨5, ·⟩)
    let others : List Call := actions.map (⟨7000000, ·⟩)
    (∀ line ∈ Run.transcript perform (.table (some []), mint) others, line.2.fault? = none)
      ∧ List.Forall₂ (fun x y => x.1.action = y.1.action ∧ x.2.SameButDates y.2)
        (Run.transcript perform (.file ⟨"issuers.jsonl", none⟩, mint) calls)
        (Run.transcript perform (.table (some []), mint) others) := by
  intro mint key actions calls others
  have hproper : ∀ line ∈ Run.transcript perform (.table (some []), mint) others,
      line.2.fault? = none := by
    decide +kernel
  have hcalls : List.Forall₂ (fun c c' => c.action = c'.action) calls others := by
    simp [calls, others, actions]
  exact ⟨hproper, transcript_file_table "issuers.jsonl" mint hcalls hproper⟩

end IssuerGate.Issuer
