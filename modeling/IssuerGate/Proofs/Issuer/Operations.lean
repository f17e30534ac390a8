import IssuerGate.Issuer.Store
import IssuerGate.Proofs.Issuer.Rewriting
import IssuerGate.Proofs.Issuer.Table

/-!
# IssuerGate — what the operations of a store can do

Each operation that can change a store is taken apart once: it fails and leaves the store as it was,
or it does one thing that is said here in full. What is drawn for a new issuer is drawn either way.

* **`create_file_cases`**, **`update_file_cases`** — in a file.
* **`create_table_cases`**, **`update_table_cases`** — in a table, and what searches there can do,
  **`get_table_cases`** and **`findActive_table_cases`**.
-/

namespace IssuerGate.Issuer

/-- The record that is found is changed. -/
theorem mem_changeFirst_of_find? {id : Text} {rs : List Record} {r : Record}
    (h : rs.find? (·.hasId id) = some r) (c : Change) : r.apply c ∈ changeFirst id c rs := by
  induction rs with
  | nil => cases h
  | cons q rs ih =>
    rw [List.find?_cons] at h
    rw [changeFirst]
    cases hid : q.hasId id with
    | true =>
      rw [hid] at h
      obtain rfl := Option.some.inj h
      exact List.mem_cons_self
    | false =>
      rw [hid] at h
      exact List.mem_cons_of_mem q (ih h)

namespace Store

variable (m : Mint) (now : Calendar.Instant) (d : Draft) (id : Text) (c : Change)

/-! ## Files -/

/-- A record is put at the end of a file, or the file stays and something has failed. -/
theorem appendToFile_cases (f : File) (r : Record) :
    (∃ log e, appendToFile f now r = ⟨f, log, .error e⟩)
      ∨ ∃ log rs g, f.records .add now = (log, .ok rs) ∧ f.write .add (rs ++ [r]) = .ok g
        ∧ appendToFile f now r = ⟨g, log, .ok ()⟩ := by
  unfold appendToFile
  rcases hread : f.records .add now with ⟨log, e | rs⟩
  · exact Or.inl ⟨log, .ofFile e, rfl⟩
  · dsimp only
    rcases hrewrite : f.rewrite .add (rs ++ [r]) with ⟨g, e | u⟩
    · have hfile := File.file_rewrite_of_error (congrArg Prod.snd hrewrite)
      rw [hrewrite] at hfile
      obtain rfl : g = f := hfile
      exact Or.inl ⟨log, .unwritable e, rfl⟩
    · exact Or.inr ⟨log, rs, g, rfl, File.write_of_rewrite hrewrite, rfl⟩

/-- **What a create in a file can do**: fail, or add the new record behind those that are read. -/
theorem create_file_cases (f : File) :
    let issued := (m.issue d.publicKey).2
    let r := Record.ofDraft d issued (Calendar.textUtc now)
    (∃ log e, create (.file f) m now d = ⟨(.file f, (m.issue d.publicKey).1), log, .error e⟩)
      ∨ ∃ log rs g, f.records .add now = (log, .ok rs) ∧ f.write .add (rs ++ [r]) = .ok g
        ∧ create (.file f) m now d
          = ⟨(.file g, (m.issue d.publicKey).1), log, .ok (r, issued.apiKey)⟩ := by
  intro issued r
  unfold create
  dsimp only
  rcases appendToFile_cases now f r with ⟨log, e, h⟩ | ⟨log, rs, g, hread, hwrite, h⟩
  · rw [h]
    exact Or.inl ⟨log, e, rfl⟩
  · rw [h]
    exact Or.inr ⟨log, rs, g, hread, hwrite, rfl⟩

/-- **What an update in a file can do**: fail, find no record with the id, or change the first one
that has it. -/
theorem update_file_cases (f : File) :
    (∃ log e, update (.file f) now id c = ⟨.file f, log, .error e⟩)
      ∨ (∃ log rs, f.records .change now = (log, .ok rs) ∧ rs.find? (·.hasId id) = none
        ∧ update (.file f) now id c = ⟨.file f, log, .ok none⟩)
      ∨ ∃ log rs r g, f.records .change now = (log, .ok rs) ∧ rs.find? (·.hasId id) = some r
        ∧ f.write .change (changeFirst id c rs) = .ok g
        ∧ update (.file f) now id c = ⟨.file g, log, .ok (some (r.apply c))⟩ := by
  unfold update
  dsimp only
  rcases hread : f.records .change now with ⟨log, e | rs⟩
  · exact Or.inl ⟨log, .ofFile e, rfl⟩
  · dsimp only
    -- without the id nothing is written; with it the whole file is, or it stays as it was
    cases hfind : rs.find? (·.hasId id) with
    | none => exact Or.inr (Or.inl ⟨log, rs, rfl, hfind, rfl⟩)
    | some r =>
      rcases hrewrite : f.rewrite .change (changeFirst id c rs) with ⟨g, e | u⟩
      · have hfile := File.file_rewrite_of_error (congrArg Prod.snd hrewrite)
        rw [hrewrite] at hfile
        obtain rfl : g = f := hfile
        exact Or.inl ⟨log, .unwritable e, rfl⟩
      · exact Or.inr (Or.inr ⟨log, rs, r, g, rfl, hfind, File.write_of_rewrite hrewrite, rfl⟩)

/-! ## Tables -/

/-- Rows are had iff the statement can be encoded and the table is there. -/
theorem rows_eq_ok_iff {coded : Bool} {t : Option Table} {table : Table} :
    rows coded t = .ok table ↔ coded = true ∧ t = some table := by
  cases t with
  | none => simp [Store.rows]
  | some rows => cases coded <;> simp [Store.rows]

/-- **What a create in a table can do**: fail, or add the row of the entry, which breaks no
constraint. -/
theorem create_table_cases (t : Option Table) :
    let issued := (m.issue d.publicKey).2
    let e := Table.entry d issued
    (∃ fault, create (.table t) m now d
        = ⟨(.table t, (m.issue d.publicKey).1), [], .error fault⟩)
      ∨ ∃ rows r, t = some rows ∧ e.isEncodable = true ∧ e.row now = .ok r ∧ rows.clash? r = none
        ∧ create (.table t) m now d
          = ⟨(.table (some (rows ++ [r])), (m.issue d.publicKey).1), [],
            .ok (r.record, issued.apiKey)⟩ := by
  intro issued e
  unfold create
  dsimp only
  rcases hrows : rows e.isEncodable t with fault | table
  · exact Or.inl ⟨fault, rfl⟩
  · obtain ⟨hcoded, rfl⟩ := rows_eq_ok_iff.mp hrows
    dsimp only
    -- the row is put at the end, or one of the constraints keeps it out
    rcases hinsert : table.insert now e with fault | ⟨table', r⟩
    · exact Or.inl ⟨.table fault, rfl⟩
    · obtain ⟨hrow, hclash, rfl⟩ := Table.insert_eq_ok_iff.mp hinsert
      exact Or.inr ⟨table, r, rfl, hcoded, hrow, hclash, rfl⟩

/-- **What an update in a table can do**: fail, for want of the table or as the id cannot be coded,
or change the row with the id. -/
theorem update_table_cases (t : Option Table) :
    (∃ fault, update (.table t) now id c = ⟨.table t, [], .error fault⟩)
      ∨ ∃ rows, t = some rows ∧ id.isEncodable = true
        ∧ update (.table t) now id c = ⟨.table (some (rows.change id c)), [],
          .ok ((rows.get? id).map fun r => (r.apply c).record)⟩ := by
  unfold update
  dsimp only
  rcases hrows : rows id.isEncodable t with fault | table
  · exact Or.inl ⟨fault, rfl⟩
  · obtain ⟨hcoded, rfl⟩ := rows_eq_ok_iff.mp hrows
    exact Or.inr ⟨table, rfl, hcoded, rfl⟩

/-- What a search in a table can do: fail, or give the row that is found. -/
theorem get_table_cases (t : Option Table) :
    (∃ fault, get (.table t) now id = ([], .error fault))
      ∨ ∃ rows, t = some rows
        ∧ get (.table t) now id = ([], .ok ((rows.get? id).map Row.record)) := by
  unfold get
  dsimp only
  rcases hrows : rows id.isEncodable t with fault | table
  · exact Or.inl ⟨fault, rfl⟩
  · exact Or.inr ⟨table, (rows_eq_ok_iff.mp hrows).2, rfl⟩

/-- A table is searched for a hash, or the search fails. -/
theorem findActive_table_cases (keyHash : Text) (t : Option Table) :
    (∃ fault, findActive (.table t) now keyHash = ([], .error fault))
      ∨ ∃ rows, t = some rows
        ∧ findActive (.table t) now keyHash
          = ([], .ok ((rows.findActive? keyHash).map Row.record)) := by
  unfold findActive
  dsimp only
  rcases hrows : rows keyHash.isEncodable t with fault | table
  · exact Or.inl ⟨fault, rfl⟩
  · exact Or.inr ⟨table, (rows_eq_ok_iff.mp hrows).2, rfl⟩

end Store

end IssuerGate.Issuer
