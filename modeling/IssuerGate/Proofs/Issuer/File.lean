import IssuerGate.Proofs.Issuer.Line
import IssuerGate.Text.Utf8.RoundTrip

/-!
# IssuerGate — a written file is read as it was written

* **`records_write`** — records that can be written are read back from the file, all of them, in
  order, at any time and without a report; and what was read is written to the same file again.

A record is written only if its fields fit in the room that the writer has, `write_eq_ok_iff`. Then
they also fit where a file is read: the reader bears deeper nesting than the writer does.
-/

namespace IssuerGate.Issuer.File

/-- The bounds with which files are written. -/
def writers : List Bounds := [.add, .change]

/-- The bounds with which files are read. -/
def readers : List Bounds := [.all, .search, .change, .add]

/-- Every reader bears what a writer has room for. -/
theorem room_le {w b : Bounds} (hw : w ∈ writers) (hb : b ∈ readers) :
    w.room + 1 ≤ 2 * b.depth := by
  have hall : ∀ w ∈ writers, ∀ b ∈ readers, w.room + 1 ≤ 2 * b.depth := by decide
  exact hall w hw b hb

/-! ## Lines -/

theorem mapM_lineChars_cons {room : Nat} {r : Record} {rs : List Record} {l : List Char}
    (h : r.lineChars room = .ok l) :
    (r :: rs).mapM (Record.lineChars room)
      = (rs.mapM (Record.lineChars room)).map (l :: ·) := by
  rw [List.mapM_cons, h]
  cases rs.mapM (Record.lineChars room) <;> rfl

/-- There are lines for records that fit, and they are read as those records. -/
theorem readLines_of_lasting {room : Nat} {rs : List Record} (hrs : ∀ r ∈ rs, r.Lasting)
    (hroom : ∀ r ∈ rs, r.overrun? room = none) :
    ∃ ls, rs.mapM (Record.lineChars room) = .ok ls
      ∧ ∀ depth, room + 1 ≤ 2 * depth → ∀ path createdAt n,
        readLines depth path createdAt n (lines ls.flatten) = ([], .ok rs) := by
  induction rs with
  | nil => exact ⟨[], rfl, fun _ _ _ _ _ => rfl⟩
  | cons r rs ih =>
    obtain ⟨hr, hrs⟩ := List.forall_mem_cons.mp hrs
    obtain ⟨hfits, hroom⟩ := List.forall_mem_cons.mp hroom
    obtain ⟨ls, hls, hread⟩ := ih hrs hroom
    obtain ⟨cs, hwrite, hline⟩ := Record.lineChars_of_encodable hr.encodable hfits
    refine ⟨(cs ++ ['\n']) :: ls, ?_, ?_⟩
    · rw [mapM_lineChars_cons hline, hls]
      rfl
    -- the line feed ends the first line, and the other lines are read as before
    · intro depth hdepth path createdAt n
      have hfirst := readLine_of_write hr hfits hdepth hwrite createdAt
      rw [List.flatten_cons, List.append_assoc, List.singleton_append,
        lines_append cs (Record.not_lineEnd_of_mem hwrite), readLines, hfirst]
      dsimp only
      rw [hread depth hdepth]
      rfl

/-- Records that are written together can be written one by one. -/
theorem exists_lineChars_of_mapM {room : Nat} {rs : List Record} {ls : List (List Char)}
    (h : rs.mapM (Record.lineChars room) = .ok ls) : ∀ r ∈ rs, ∃ l, r.lineChars room = .ok l := by
  induction rs generalizing ls with
  | nil => exact List.forall_mem_nil _
  | cons r rs ih =>
    cases hline : r.lineChars room with
    | error e =>
      rw [List.mapM_cons, hline] at h
      cases h
    | ok l =>
      rw [mapM_lineChars_cons hline] at h
      cases hls : rs.mapM (Record.lineChars room) with
      | error e =>
        rw [hls] at h
        cases h
      | ok ls => exact List.forall_mem_cons.mpr ⟨⟨l, hline⟩, ih hls⟩

theorem overrun?_of_mapM {room : Nat} {rs : List Record} {ls : List (List Char)}
    (h : rs.mapM (Record.lineChars room) = .ok ls) : ∀ r ∈ rs, r.overrun? room = none := by
  intro r hr
  obtain ⟨l, hl⟩ := exists_lineChars_of_mapM h r hr
  exact (Record.of_lineChars_eq_ok hl).1

theorem encodable_of_mapM {room : Nat} {rs : List Record} {ls : List (List Char)}
    (h : rs.mapM (Record.lineChars room) = .ok ls) :
    ∀ r ∈ rs, ∀ m ∈ r.members, m.2.isEncodable = true := by
  intro r hr
  obtain ⟨l, hl⟩ := exists_lineChars_of_mapM h r hr
  by_contra hcoded
  obtain ⟨e, he⟩ := Record.exists_lineChars_error_iff.mpr (Or.inr hcoded)
  rw [hl] at he
  cases he

/-! ## Files -/

/-- A file as it is found again: its bytes, decoded. -/
def reopened (f : File) : File :=
  { f with content := f.content.map fun c => .ofBytes c.bytes }

theorem reopened_text {f : File} {cs : List Char} (h : f.content = some (.text cs)) :
    f.reopened = f := by
  obtain ⟨path, content⟩ := f
  obtain rfl : content = some (.text cs) := h
  unfold reopened Content.bytes Content.ofBytes
  dsimp only [Option.map_some]
  rw [Utf8.chars?_encode]

variable {w : Bounds} {rs : List Record}

/-- A file is written as the lines of its records, one after the other. -/
theorem write_of_mapM {ls : List (List Char)} (h : rs.mapM (Record.lineChars w.room) = .ok ls)
    (f : File) : f.write w rs = .ok { f with content := some (.text ls.flatten) } := by
  unfold write contentOf
  rw [h]
  rfl

/-- Records that fit are written to a file that holds just them. -/
theorem write_of_lasting (hw : w ∈ writers) (hrs : ∀ r ∈ rs, r.Lasting)
    (hroom : ∀ r ∈ rs, r.overrun? w.room = none) (f : File) :
    ∃ g, f.write w rs = .ok g ∧ g.reopened = g
      ∧ ∀ b ∈ readers, ∀ now, g.records b now = ([], .ok rs) := by
  obtain ⟨ls, hls, hread⟩ := readLines_of_lasting hrs hroom
  refine ⟨_, write_of_mapM hls f, reopened_text rfl, fun b hb now => ?_⟩
  exact hread b.depth (room_le hw hb) f.path (Calendar.textUtc now) 1

/-- What was written before does not matter to what is written. -/
theorem write_of_write {f g : File} (h : f.write w rs = .ok g) : g.write w rs = .ok g := by
  unfold write at h ⊢
  cases hc : contentOf w rs with
  | error e =>
    rw [hc] at h
    cases h
  | ok c =>
    rw [hc] at h
    obtain rfl := Except.ok.inj h
    rfl

theorem overrun?_of_write {f g : File} (h : f.write w rs = .ok g) :
    ∀ r ∈ rs, r.overrun? w.room = none := by
  unfold write contentOf at h
  cases hls : rs.mapM (Record.lineChars w.room) with
  | error e =>
    rw [hls] at h
    cases h
  | ok ls => exact overrun?_of_mapM hls

/-- What has been written an encoding carries. -/
theorem encodable_of_write {f g : File} (h : f.write w rs = .ok g) :
    ∀ r ∈ rs, ∀ m ∈ r.members, m.2.isEncodable = true := by
  unfold write contentOf at h
  cases hls : rs.mapM (Record.lineChars w.room) with
  | error e =>
    rw [hls] at h
    cases h
  | ok ls => exact encodable_of_mapM hls

/-- **A written file is read as it was written.** Records are written if and only if their fields
fit; what is found in the file then is those records, whoever reads it and whenever, and writing
them again leaves the file as it is. -/
theorem records_write (hrs : ∀ r ∈ rs, r.Lasting) (hw : w ∈ writers) (f : File) :
    ((∃ g, f.write w rs = .ok g) ↔ ∀ r ∈ rs, r.overrun? w.room = none)
      ∧ ∀ g, f.write w rs = .ok g →
        g.reopened = g
          ∧ ∀ b ∈ readers, ∀ now,
            g.records b now = ([], .ok rs)
              ∧ ∀ log found, g.records b now = (log, .ok found) → g.write w found = .ok g := by
  refine ⟨⟨fun ⟨g, hg⟩ => overrun?_of_write hg, fun hroom => ?_⟩, fun g hg => ?_⟩
  · obtain ⟨g, hg, -⟩ := write_of_lasting hw hrs hroom f
    exact ⟨g, hg⟩
  · obtain ⟨g', hg', hopened, hread⟩ := write_of_lasting hw hrs (overrun?_of_write hg) f
    obtain rfl : g = g' := Except.ok.inj (hg.symm.trans hg')
    refine ⟨hopened, fun b hb now => ⟨hread b hb now, fun log found hfound => ?_⟩⟩
    rw [hread b hb now] at hfound
    obtain rfl := Except.ok.inj (Prod.mk.inj hfound).2
    exact write_of_write hg

/-- A record with values within values, and with code points that end lines or are stripped from
them elsewhere. -/
def nested : Record where
  id := .str "\n\r\u0085\u2028\ufeff"
  name := .arr [.null, .bool true, .obj [("\"", .int (-12)), ("\\", .arr [])]]
  publicKey := .str " \u0000😀 "
  tier := .paid
  active := false
  keyHash := .int 0
  description := .null
  website := .obj []
  contactEmail := .bool false
  createdAt := .str ""

/-- A record with values within values is written and read back. -/
theorem records_write_of_nested : ∃ g, File.write ⟨"issuers.jsonl", none⟩ .add [nested] = .ok g
    ∧ g.reopened = g ∧ ∀ b ∈ readers, ∀ now, g.records b now = ([], .ok [nested]) := by
  have hlasting : ∀ r ∈ [nested], r.Lasting := by
    intro r hr
    obtain rfl := List.mem_singleton.mp hr
    exact ⟨by decide, by decide⟩
  obtain ⟨hwritten, hread⟩ :=
    records_write hlasting (w := .add) (by decide) ⟨"issuers.jsonl", none⟩
  obtain ⟨g, hg⟩ := hwritten.mpr (by decide)
  obtain ⟨hopened, hrecords⟩ := hread g hg
  exact ⟨g, hg, hopened, fun b hb now => (hrecords b hb now).1⟩

end IssuerGate.Issuer.File
