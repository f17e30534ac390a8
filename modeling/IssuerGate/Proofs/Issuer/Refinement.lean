import IssuerGate.Proofs.Issuer.Legible
import IssuerGate.Proofs.Issuer.Rewriting
import IssuerGate.Proofs.Issuer.Roll

/-!
# IssuerGate — a store in a file behaves as a plain list

* **`Holds`** — a file holds a list of records: every reader finds it, at any time, and all of it
  can be written again.
* **`perform_of_holds`** — one call of the store in such a file is answered as the list answers it,
  and leaves a file that holds what becomes of the list.
* **`transcript_file`** — so a store that starts with a legible text, or with no file, answers each
  run as the list of the records in that text does.
-/

namespace IssuerGate.Issuer

/-! ## Changes -/

/-- What holds of tiers and flags, and of all members of a record, holds of those of the changed
record. -/
theorem Record.forall_members_apply {p : Json → Prop} (htier : ∀ t : Tier, p (.str t.name))
    (hflag : ∀ b, p (.bool b)) {r : Record} (h : ∀ m ∈ r.members, p m.2) (c : Change) :
    ∀ m ∈ (r.apply c).members, p m.2 := by
  unfold members at h ⊢
  simp only [List.forall_mem_cons] at h ⊢
  obtain ⟨hid, hname, hkey, -, -, hrest⟩ := h
  exact ⟨hid, hname, hkey, htier _, hflag _, hrest⟩

theorem Record.Lasting.apply {r : Record} (h : r.Lasting) (c : Change) : (r.apply c).Lasting where
  plain :=
    forall_members_apply (p := fun v => v.isPlain = true) (fun _ => rfl) (fun _ => rfl) h.plain c
  encodable := by
    refine forall_members_apply (p := fun v => v.isEncodable = true) (fun t => ?_) (fun _ => rfl)
      h.encodable c
    cases t <;> rfl

theorem Record.overrun?_apply {r : Record} {room : Nat} (h : r.overrun? room = none) (c : Change) :
    (r.apply c).overrun? room = none := by
  rw [overrun?_eq_none_iff] at h ⊢
  have hsimple : Json.overrunSimple? room = none := by
    refine h (Text.ofString "is_active", .bool r.active) ?_
    simp [members]
  exact forall_members_apply (p := fun v => v.overrun? room = none) (fun _ => hsimple)
    (fun _ => hsimple) h c

/-- What holds of all records, and of each that is changed, holds of all after a change. -/
theorem forall_mem_changeFirst {p : Record → Prop} {id : Text} {c : Change}
    (hchange : ∀ r, p r → p (r.apply c)) {roll : Roll} (h : ∀ r ∈ roll, p r) :
    ∀ r ∈ changeFirst id c roll, p r := by
  induction roll with
  | nil => exact h
  | cons r roll ih =>
    obtain ⟨hr, hroll⟩ := List.forall_mem_cons.mp h
    unfold changeFirst
    split
    · exact List.forall_mem_cons.mpr ⟨hchange r hr, hroll⟩
    · exact List.forall_mem_cons.mpr ⟨hr, ih hroll⟩

/-- The record that is changed is the one at the first place with the id, if there is one. -/
theorem changeFirst_cases (id : Text) (c : Change) (roll : Roll) :
    (roll.findIdx? (·.hasId id) = none ∧ roll.find? (·.hasId id) = none
        ∧ changeFirst id c roll = roll)
      ∨ ∃ i r, roll.findIdx? (·.hasId id) = some i ∧ roll.find? (·.hasId id) = some r
        ∧ roll[i]? = some r ∧ changeFirst id c roll = roll.modify i (Record.apply c) := by
  induction roll with
  | nil => exact Or.inl ⟨rfl, rfl, rfl⟩
  | cons q roll ih =>
    rw [List.findIdx?_cons, List.find?_cons, changeFirst]
    -- the first record with the id is the one to change; its index counts those passed over
    by_cases hq : q.hasId id = true
    · rw [if_pos hq, if_pos hq, hq]
      exact Or.inr ⟨0, q, rfl, rfl, rfl, rfl⟩
    · rw [if_neg hq, if_neg hq, (Bool.not_eq_true _).mp hq]
      rcases ih with ⟨hnone, hfind, hsame⟩ | ⟨i, r, hindex, hfind, hget, hchange⟩
      · rw [hnone, hsame]
        exact Or.inl ⟨rfl, hfind, rfl⟩
      · rw [hindex, hchange]
        exact Or.inr ⟨i + 1, r, rfl, hfind, hget, rfl⟩

/-- **What the list does for an update**: it changes the first record with the id and gives it. -/
theorem Roll.perform_update (s : Roll × Mint) (now : Calendar.Instant) (id : Text) (c : Change) :
    Roll.perform s ⟨now, .update id c⟩ = ⟨(changeFirst id c s.1, s.2), [],
      .updated (.ok ((s.1.find? (·.hasId id)).map (Record.apply c)))⟩ := by
  unfold Roll.perform
  dsimp only
  rcases changeFirst_cases id c s.1 with ⟨hnone, hfind, hsame⟩ | ⟨i, r, hindex, hfind, hget, hchange⟩
  · rw [hnone, hfind, hsame]
    rfl
  · have hchanged : (s.1.modify i (Record.apply c))[i]? = some (r.apply c) := by
      rw [List.getElem?_modify, hget, Option.map_eq_map, Option.map_some, if_pos rfl]
    rw [hindex, hfind, hchange]
    exact congrArg (fun a => Step.mk _ [] (Store.Reply.updated (.ok a))) hchanged

/-! ## Files that hold a list -/

/-- A file holds a list of records: every reader finds it, at any time, and each of the records is
read back once it is written and fits where it is written. -/
structure Holds (f : File) (roll : Roll) : Prop where
  reads : ∀ b ∈ File.readers, ∀ now, (f.records b now).2 = .ok roll
  lasting : ∀ r ∈ roll, r.Lasting
  fits : ∀ r ∈ roll, r.overrun? File.Bounds.add.room = none

/-- Reading a file that holds a list gives the list, whatever is put in the log meanwhile. -/
theorem Holds.records {f : File} {roll : Roll} (h : Holds f roll) {b : File.Bounds}
    (hb : b ∈ File.readers) (now : Calendar.Instant) :
    ∃ log, f.records b now = (log, .ok roll) :=
  ⟨(f.records b now).1, Prod.ext rfl (h.reads b hb now)⟩

/-- What fits where records are added fits where they are changed. -/
theorem overrun?_of_mem_writers {r : Record} (h : r.overrun? File.Bounds.add.room = none)
    {w : File.Bounds} (hw : w ∈ File.writers) : r.overrun? w.room = none := by
  have hle : ∀ w ∈ File.writers, File.Bounds.add.room ≤ w.room := by decide
  rw [Record.overrun?_eq_none_iff] at h ⊢
  exact fun m hm => Json.overrun?_of_le (hle w hw) (h m hm)

/-- A list that is written to a file is held by it. -/
theorem exists_holds {roll : Roll} (hlasting : ∀ r ∈ roll, r.Lasting)
    (hfits : ∀ r ∈ roll, r.overrun? File.Bounds.add.room = none) {w : File.Bounds}
    (hw : w ∈ File.writers) (f : File) : ∃ g, f.write w roll = .ok g ∧ Holds g roll := by
  obtain ⟨g, hg, -, hread⟩ := File.write_of_lasting hw hlasting
    (fun r hr => overrun?_of_mem_writers (hfits r hr) hw) f
  refine ⟨g, hg, ⟨fun b hb now => ?_, hlasting, hfits⟩⟩
  rw [hread b hb now]

/-- A legible text holds the records in it, and so does no file at all. -/
theorem holds_of_legible {content : Option (List Char)} (h : File.Legible (content.getD []))
    (path : Text) : Holds ⟨path, content.map .text⟩ (File.recordsIn (content.getD [])) where
  reads := by
    intro b hb now
    cases content with
    | none => rfl
    | some cs => exact File.records_of_legible h path hb now
  lasting := File.lasting_of_legible h
  fits := h.room

/-! ## One call -/

/-- A store is in a file that holds a list, beside the same mint. -/
def Keeps (s : Store × Mint) (t : Roll × Mint) : Prop :=
  ∃ f, s = (.file f, t.2) ∧ Holds f t.1

/-- The store keeps what becomes of the list, and both give the same answer. -/
def Agree (x : Step (Store × Mint) Store.Reply) (y : Step (Roll × Mint) Store.Reply) : Prop :=
  Keeps x.state y.state ∧ x.answer = y.answer

variable {f : File} {roll : Roll}

/-- A record that can be read back is put behind the list that the file holds. -/
theorem appendToFile_of_lasting (h : Holds f roll) (now : Calendar.Instant) {r : Record}
    (hr : r.Lasting) (hfits : r.overrun? File.Bounds.add.room = none) :
    ∃ log g, Store.appendToFile f now r = ⟨g, log, .ok ()⟩ ∧ Holds g (roll ++ [r]) := by
  obtain ⟨log, hread⟩ := h.records (b := .add) (by decide) now
  have hlasting : ∀ q ∈ roll ++ [r], q.Lasting :=
    List.forall_mem_append.mpr ⟨h.lasting, List.forall_mem_singleton.mpr hr⟩
  have hroom : ∀ q ∈ roll ++ [r], q.overrun? File.Bounds.add.room = none :=
    List.forall_mem_append.mpr ⟨h.fits, List.forall_mem_singleton.mpr hfits⟩
  -- the whole list is written again, and what is written holds it
  obtain ⟨g, hg, hholds⟩ := exists_holds hlasting hroom (w := .add) (by decide) f
  refine ⟨log, g, ?_, hholds⟩
  unfold Store.appendToFile
  rw [hread]
  dsimp only
  rw [File.rewrite_of_write hg]
  rfl

/-- A record that cannot be encoded is refused before the file is opened for writing. -/
theorem appendToFile_of_not_encodable (h : Holds f roll) (now : Calendar.Instant) {r : Record}
    (hcoded : ¬ ∀ m ∈ r.members, m.2.isEncodable = true)
    (hfits : r.overrun? File.Bounds.add.room = none) :
    ∃ log, Store.appendToFile f now r = ⟨f, log, .error (.unwritable .unencodable)⟩ := by
  obtain ⟨log, hread⟩ := h.records (b := .add) (by decide) now
  obtain ⟨ls, hls, -⟩ := File.readLines_of_lasting h.lasting h.fits
  have hline := Record.lineChars_of_not_encodable hcoded hfits
  refine ⟨log, ?_⟩
  unfold Store.appendToFile
  rw [hread]
  dsimp only
  rw [File.rewrite_of_fault hls hline]
  rfl

/-- A creation does to the file what it does to the list: a record that can be written is put at the
end, any other is refused and the file left as it is. -/
theorem create_of_holds (h : Holds f roll) (m : Mint) (now : Calendar.Instant) (d : Draft) :
    Agree (Store.perform (.file f, m) ⟨now, .create d⟩)
      (Roll.perform (roll, m) ⟨now, .create d⟩) := by
  have hplain := Record.plain_ofDraft d (m.issue d.publicKey).2 (Calendar.textUtc now)
  have hfits : (Record.ofDraft d (m.issue d.publicKey).2 (Calendar.textUtc now)).overrun?
      File.Bounds.add.room = none := Record.overrun?_ofDraft d _ _ (by decide)
  have hencodable := Record.encodable_ofDraft d m now
  unfold Store.perform Store.create Roll.perform
  dsimp only
  -- the record can be encoded iff its draft can: key, hash, id and time are plain
  split_ifs with hcoded
  · obtain ⟨log, g, happend, hholds⟩ :=
      appendToFile_of_lasting h now ⟨hplain, hencodable.mpr hcoded⟩ hfits
    rw [happend]
    exact ⟨⟨g, rfl, hholds⟩, rfl⟩
  · obtain ⟨log, happend⟩ := appendToFile_of_not_encodable h now
      (fun hall => hcoded (hencodable.mp hall)) hfits
    rw [happend]
    exact ⟨⟨f, rfl, h⟩, rfl⟩

/-- A change does to the file what it does to the list: the first record with the id is changed at
its place. -/
theorem update_of_holds (h : Holds f roll) (m : Mint) (now : Calendar.Instant) (id : Text)
    (c : Change) : Agree (Store.perform (.file f, m) ⟨now, .update id c⟩)
      (Roll.perform (roll, m) ⟨now, .update id c⟩) := by
  obtain ⟨log, hread⟩ := h.records (b := .change) (by decide) now
  rw [Roll.perform_update]
  unfold Store.perform Store.update
  dsimp only
  rw [hread]
  dsimp only
  rcases changeFirst_cases id c roll with ⟨-, hfind, hsame⟩ | ⟨-, r, -, hfind, -, -⟩
  -- no record has the id, and the file is not touched
  · rw [hfind, hsame]
    exact ⟨⟨f, rfl, h⟩, rfl⟩
  -- the whole list is written again, with the changed record at its place
  · have hlasting : ∀ q ∈ changeFirst id c roll, q.Lasting :=
      forall_mem_changeFirst (fun q hq => hq.apply c) h.lasting
    have hfits : ∀ q ∈ changeFirst id c roll, q.overrun? File.Bounds.add.room = none :=
      forall_mem_changeFirst (fun q hq => Record.overrun?_apply hq c) h.fits
    obtain ⟨g, hg, hholds⟩ := exists_holds hlasting hfits (w := .change) (by decide) f
    rw [hfind]
    dsimp only
    rw [File.rewrite_of_write hg]
    exact ⟨⟨g, rfl, hholds⟩, rfl⟩

/-- **One call is answered as the list answers it**, and the list is what the file holds then. -/
theorem perform_of_holds (h : Holds f roll) (m : Mint) (c : Store.Call) :
    Agree (Store.perform (.file f, m) c) (Roll.perform (roll, m) c) := by
  obtain ⟨now, action⟩ := c
  cases action with
  | create d => exact create_of_holds h m now d
  | update id c => exact update_of_holds h m now id c
  -- the three readings leave the file alone and differ in what they look for
  | get id =>
    obtain ⟨log, hread⟩ := h.records (b := .all) (by decide) now
    refine ⟨⟨f, rfl, h⟩, ?_⟩
    unfold Store.perform Store.get Roll.perform
    dsimp only
    rw [hread]
    rfl
  | find keyHash =>
    obtain ⟨log, hread⟩ := h.records (b := .search) (by decide) now
    refine ⟨⟨f, rfl, h⟩, ?_⟩
    unfold Store.perform Store.findActive Roll.perform
    dsimp only
    rw [hread]
    rfl
  | list =>
    obtain ⟨log, hread⟩ := h.records (b := .all) (by decide) now
    refine ⟨⟨f, rfl, h⟩, ?_⟩
    unfold Store.perform Store.list Roll.perform
    dsimp only
    rw [hread]
    rfl

/-! ## Runs -/

/-- A file that holds a list answers each run as the list does, and goes on holding what becomes of
it. -/
theorem transcript_of_keeps {s : Store × Mint} {t : Roll × Mint} (h : Keeps s t)
    (calls : List Store.Call) :
    Keeps (Run.after Store.perform s calls) (Run.after Roll.perform t calls)
      ∧ Run.transcript Store.perform s calls = Run.transcript Roll.perform t calls := by
  refine Run.transcript_eq_of_simulation Keeps (fun s t c hkeeps => ?_) h calls
  obtain ⟨f, rfl, hholds⟩ := hkeeps
  exact perform_of_holds hholds t.2 c

theorem answer_of_keeps {s : Store × Mint} {t : Roll × Mint} (h : Keeps s t) (c : Store.Call) :
    (Store.perform s c).answer = (Roll.perform t c).answer := by
  obtain ⟨f, rfl, hholds⟩ := h
  exact (perform_of_holds hholds t.2 c).2

/-- **A store in a file behaves as a plain list of records.** It starts with a legible text or with
no file, and answers each run, at any readings of the clock, as the list of the records of the
well-formed lines does. So what a create gave stays at its place but for its tier and its active
flag, and as long as it is active and opens before all others, its key finds it. -/
theorem Store.transcript_file (path : Text) (content : Option (List Char))
    (hstart : File.Legible (content.getD [])) (mint : Mint) (calls : List Call) :
    let s : Store × Mint := (.file ⟨path, content.map .text⟩, mint)
    let t : Roll × Mint := (File.recordsIn (content.getD []), mint)
    Run.transcript perform s calls = Run.transcript Roll.perform t calls
      ∧ ∀ past now d since r key, calls = past ++ ⟨now, .create d⟩ :: since →
        (perform (Run.after perform s past) ⟨now, .create d⟩).answer = .created (.ok (r, key)) →
        let place := (Run.after Roll.perform t past).1.length
        let roll := (Run.after Roll.perform t calls).1
        ∃ version keyHash, roll[place]? = some version ∧ version.IsVersionOf r
          ∧ ApiKey.hash key = .ok keyHash
          ∧ (version.active = true →
            (∀ q ∈ roll.take place, q.opensWith keyHash = false) →
            ∀ later, (perform (Run.after perform s calls)
              ⟨later, .find keyHash⟩).answer = .found (.ok (some version))) := by
  intro s t
  have hkeeps : Keeps s t := ⟨_, rfl, holds_of_legible hstart path⟩
  refine ⟨(transcript_of_keeps hkeeps calls).2, fun past now d since r key hcalls hcreated => ?_⟩
  intro place roll
  rw [answer_of_keeps (transcript_of_keeps hkeeps past).1] at hcreated
  obtain ⟨hadded, keyHash, hhash, hkey⟩ := Roll.of_created hcreated
  have hplace : (Roll.perform (Run.after Roll.perform t past) ⟨now, .create d⟩).state.1[place]?
      = some r := by
    rw [hadded]
    exact List.getElem?_concat_length
  -- from there on the record only changes its tier and its flag, and never its place or its hash
  obtain ⟨version, hversion, hsame⟩ := Roll.getElem?_after hplace since
  have hroll : Run.after Roll.perform t calls = Run.after Roll.perform
      (Roll.perform (Run.after Roll.perform t past) ⟨now, .create d⟩).state since := by
    rw [hcalls, Run.after_append, Run.after_cons]
  rw [← hroll] at hversion
  refine ⟨version, keyHash, hversion, hsame, hhash, fun hactive hearlier later => ?_⟩
  have hopens : version.opensWith keyHash = true := by
    unfold Record.IsVersionOf at hsame
    unfold Record.opensWith
    rw [hactive, hsame, hkey]
    exact beq_self_eq_true _
  rw [answer_of_keeps (transcript_of_keeps hkeeps calls).1]
  exact congrArg (fun a => Reply.found (.ok a)) (Roll.find?_opensWith hversion hopens hearlier)

/-- A new issuer is added behind the record of the file and found by its key. -/
theorem Store.transcript_file_of_mixed :
    let d : Draft := { name := some "b" }
    let mint : Mint := { source := .counting }
    let issued := (mint.issue d.publicKey).2
    let r := Record.ofDraft d issued (Calendar.textUtc 5)
    let s : Store × Mint := (.file ⟨"issuers.jsonl", (some File.mixedText).map .text⟩, mint)
    File.Legible File.mixedText
      ∧ (perform s ⟨5, .create d⟩).answer = .created (.ok (r, issued.apiKey))
      ∧ (perform (Run.after perform s [⟨5, .create d⟩])
          ⟨3, .find (ApiKey.digest issued.apiKey)⟩).answer = .found (.ok (some r)) := by
  intro d mint issued r s
  obtain ⟨htranscript, hcurrent⟩ := transcript_file "issuers.jsonl" (some File.mixedText)
    File.legible_mixedText mint [⟨5, .create d⟩]
  have hroll : (Roll.perform ([File.nested], mint) ⟨5, .create d⟩).answer
      = .created (.ok (r, issued.apiKey)) := by
    unfold Roll.perform
    dsimp only
    rw [if_pos (by decide)]
  have hrecords : File.recordsIn ((some File.mixedText).getD []) = [File.nested] :=
    File.recordsIn_mixedText
  rw [hrecords] at htranscript hcurrent
  rw [Run.transcript_cons, Run.transcript_cons, hroll] at htranscript
  have hcreated : (perform s ⟨5, .create d⟩).answer = .created (.ok (r, issued.apiKey)) :=
    (Prod.mk.inj (List.cons.inj htranscript).1).2
  refine ⟨File.legible_mixedText, hcreated, ?_⟩
  -- the key of the new record opens it at once, as no earlier record has its hash
  obtain ⟨version, keyHash, hversion, -, hhash, hfind⟩ :=
    hcurrent [] 5 d [] r issued.apiKey rfl hcreated
  obtain ⟨-, rfl⟩ := ApiKey.hash_eq_ok_iff.mp hhash
  have hadded : (Run.after Roll.perform ([File.nested], mint) [⟨5, .create d⟩]).1
      = [File.nested] ++ [r] := by
    rw [Run.after_cons, Run.after_nil]
    exact (Roll.of_created hroll).1
  rw [hadded] at hversion hfind
  obtain rfl : r = version := Option.some.inj hversion
  have hearlier : ∀ q ∈ [File.nested], q.opensWith (ApiKey.digest issued.apiKey) = false := by
    intro q hq
    rw [List.mem_singleton.mp hq]
    rfl
  exact hfind rfl hearlier 3

end IssuerGate.Issuer
