import IssuerGate.Proofs.Issuer.Operations
import IssuerGate.Proofs.Issuer.Roll

/-!
# IssuerGate — operations that fail change nothing

* **`Store.perform_of_fault`** — a call that fails leaves the file or the table as it was, and with it
  all later answers; only what was drawn for it stays drawn.
* **`Store.create_file_fails_iff`**, **`Store.update_file_fails_iff`** — where a call can fail in a
  file: the file is not read, or one of the records that are to be written cannot be, whichever.
* **`Store.create_table_fails_iff`** — and in a table.
-/

namespace IssuerGate.Issuer.Store

/-- Why there is no answer, if there is none. -/
def Answer.fault? {α : Type} : Answer α → Option Fault
  | .error e => some e
  | .ok _ => none

/-- Why a call failed, if it did. -/
def Reply.fault? : Reply → Option Fault
  | .created a => a.fault?
  | .updated a => a.fault?
  | .found a => a.fault?
  | .listed a => a.fault?

/-- The mint behind a call: only creates draw from it. -/
def Call.drawn (c : Call) (m : Mint) : Mint :=
  match c.action with
  | .create d => (m.issue d.publicKey).1
  | _ => m

/-- Does a call draw from the mint? -/
def Call.draws (c : Call) : Bool :=
  match c.action with
  | .create _ => true
  | _ => false

theorem eq_error_of_fault? {α : Type} {a : Answer α} {e : Fault} (h : a.fault? = some e) :
    a = .error e := by
  cases a with
  | error e' => rw [Option.some.inj h]
  | ok v => cases h

variable (m : Mint) (now : Calendar.Instant) (d : Draft) (id : Text) (c : Change)

/-! ## Where calls fail -/

/-- An answer that waits for a write fails iff the write does. -/
theorem exists_answer_error_iff {α : Type} (outcome : Except Record.WriteFault Unit) (a : α) :
    (∃ e, (outcome.mapError Fault.unwritable).map (fun _ => a) = .error e)
      ↔ ∃ e, outcome = .error e := by
  cases outcome with
  | ok u =>
    constructor
    · rintro ⟨e, he⟩
      cases he
    · rintro ⟨e, he⟩
      cases he
  | error e => exact iff_of_true ⟨.unwritable e, rfl⟩ ⟨e, rfl⟩

/-- A create in a file fails if the file is not read, or if one of the records, old or new, does not
fit or holds a text that an encoding does not carry, wherever it stands. -/
theorem create_file_fails_iff (f : File) :
    let r := Record.ofDraft d (m.issue d.publicKey).2 (Calendar.textUtc now)
    (∃ e, (create (.file f) m now d).answer = .error e)
      ↔ (∃ e, (f.records .add now).2 = .error e) ∨ ∃ rs, (f.records .add now).2 = .ok rs
        ∧ ∃ q ∈ rs ++ [r], q.overrun? File.Bounds.add.room ≠ none
          ∨ ¬ ∀ f ∈ q.members, f.2.isEncodable = true := by
  intro r
  unfold create appendToFile
  dsimp only
  -- either the reading fails or the writing of what was read and the new record
  rcases f.records .add now with ⟨log, e | rs⟩
  · exact iff_of_true ⟨.ofFile e, rfl⟩ (Or.inl ⟨e, rfl⟩)
  · refine (exists_answer_error_iff _ _).trans ((File.exists_rewrite_error_iff f).trans ?_)
    simp [Record.exists_lineChars_error_iff, r]

/-- A change of a file fails iff reading it does, or the id is there and some record of the changed
list cannot be written. -/
theorem update_file_fails_iff (f : File) :
    (∃ e, (update (.file f) now id c).answer = .error e)
      ↔ (∃ e, (f.records .change now).2 = .error e) ∨ ∃ rs, (f.records .change now).2 = .ok rs
        ∧ (∃ q ∈ rs, q.hasId id = true)
        ∧ ∃ q ∈ changeFirst id c rs, q.overrun? File.Bounds.change.room ≠ none
          ∨ ¬ ∀ f ∈ q.members, f.2.isEncodable = true := by
  unfold update
  dsimp only
  rcases f.records .change now with ⟨log, e | rs⟩
  · exact iff_of_true ⟨.ofFile e, rfl⟩ (Or.inl ⟨e, rfl⟩)
  · dsimp only
    -- without the id nothing is written, so nothing can fail
    cases hfind : rs.find? (·.hasId id) with
    | none =>
      have hnone : ∀ q ∈ rs, ¬ q.hasId id = true := List.find?_eq_none.mp hfind
      constructor
      · rintro ⟨e, he⟩
        cases he
      · rintro (⟨e, he⟩ | ⟨rs', hrs, ⟨q, hq, hid⟩, -⟩)
        · cases he
        · obtain rfl := Except.ok.inj hrs
          exact absurd hid (hnone q hq)
    | some r =>
      have hfound : ∃ q ∈ rs, q.hasId id = true :=
        ⟨r, List.mem_of_find?_eq_some hfind, List.find?_some hfind⟩
      refine (exists_answer_error_iff _ _).trans ((File.exists_rewrite_error_iff f).trans ?_)
      simp [Record.exists_lineChars_error_iff, hfound]

/-- A create in a table fails unless the table is there, an encoding carries the texts, the name is
given, and no row has the key hash, the public key or the id. -/
theorem create_table_fails_iff (t : Option Table) :
    let issued := (m.issue d.publicKey).2
    (∃ e, (create (.table t) m now d).answer = .error e)
      ↔ ¬ ∃ rows, t = some rows ∧ (Table.entry d issued).isEncodable = true
        ∧ d.name.isSome = true ∧ ∀ q ∈ rows, q.keyHash ≠ some (ApiKey.digest issued.apiKey)
          ∧ q.publicKey ≠ issued.publicKey ∧ q.id ≠ issued.id := by
  intro issued
  unfold create
  dsimp only
  -- first the statement and the table, then the row and its three constraints
  rcases hrows : rows (Table.entry d issued).isEncodable t with fault | table
  · refine iff_of_true ⟨fault, rfl⟩ ?_
    rintro ⟨rows, ht, hcoded, -⟩
    rw [rows_eq_ok_iff.mpr ⟨hcoded, ht⟩] at hrows
    cases hrows
  · obtain ⟨hcoded, rfl⟩ := rows_eq_ok_iff.mp hrows
    dsimp only
    rcases hinsert : table.insert now (Table.entry d issued) with fault | ⟨table', r⟩
    · refine iff_of_true ⟨.table fault, rfl⟩ ?_
      rintro ⟨rows, ht, -, hname, hfree⟩
      obtain rfl := Option.some.inj ht
      obtain ⟨name, hname⟩ := Option.isSome_iff_exists.mp hname
      have hrow : (Table.entry d issued).row now = .ok (Table.rowOf d issued name now) :=
        Table.row_entry_eq_ok_iff.mpr ⟨name, hname, rfl⟩
      have hclash : table.clash? (Table.rowOf d issued name now) = none :=
        Table.clash?_eq_none_iff.mpr ⟨fun q hq _ => (hfree q hq).1, fun q hq => (hfree q hq).2.1,
          fun q hq => (hfree q hq).2.2⟩
      rw [Table.insert_eq_ok_iff.mpr ⟨hrow, hclash, rfl⟩] at hinsert
      cases hinsert
    · obtain ⟨hrow, hclash, -⟩ := Table.insert_eq_ok_iff.mp hinsert
      obtain ⟨name, hname, rfl⟩ := Table.row_entry_eq_ok_iff.mp hrow
      obtain ⟨hhash, hkey, hid⟩ := Table.clash?_eq_none_iff.mp hclash
      constructor
      · rintro ⟨e, he⟩
        cases he
      · intro hnot
        exact absurd ⟨table, rfl, hcoded, by rw [hname]; rfl,
          fun q hq => ⟨hhash q hq rfl, hkey q hq, hid q hq⟩⟩ hnot

/-! ## What is left of them -/

/-- A creation that fails has drawn an id and a key, and stored nothing. -/
theorem state_create_of_error {s : Store} {e : Fault} (h : (create s m now d).answer = .error e) :
    (create s m now d).state = (s, (m.issue d.publicKey).1) := by
  cases s with
  | file f =>
    rcases create_file_cases m now d f with ⟨log, e', hfail⟩ | ⟨log, rs, g, -, -, hdone⟩
    · rw [hfail]
    · rw [hdone] at h
      cases h
  | table t =>
    rcases create_table_cases m now d t with ⟨e', hfail⟩ | ⟨rows, r, -, -, -, -, hdone⟩
    · rw [hfail]
    · rw [hdone] at h
      cases h

/-- A change that fails has changed nothing. -/
theorem state_update_of_error {s : Store} {e : Fault} (h : (update s now id c).answer = .error e) :
    (update s now id c).state = s := by
  cases s with
  | file f =>
    rcases update_file_cases now id c f with
      ⟨log, e', hfail⟩ | ⟨log, rs, -, -, hnone⟩ | ⟨log, rs, r, g, -, -, -, hdone⟩
    · rw [hfail]
    · rw [hnone]
    · rw [hdone] at h
      cases h
  | table t =>
    rcases update_table_cases now id c t with ⟨e', hfail⟩ | ⟨rows, -, -, hdone⟩
    · rw [hfail]
    · rw [hdone] at h
      cases h

/-- A call that draws nothing is answered the same over each mint, and leaves the mint alone. -/
theorem perform_of_not_draws {c : Call} (h : c.draws = false) (s : Store) :
    ∃ t reply, ∀ m, (perform (s, m) c).state = (t, m) ∧ (perform (s, m) c).answer = reply := by
  obtain ⟨now, action⟩ := c
  cases action with
  | create d => cases h
  | update id change =>
    exact ⟨(update s now id change).state, .updated (update s now id change).answer,
      fun m => ⟨rfl, rfl⟩⟩
  | get id => exact ⟨s, .found (s.get now id).2, fun m => ⟨rfl, rfl⟩⟩
  | find keyHash => exact ⟨s, .found (s.findActive now keyHash).2, fun m => ⟨rfl, rfl⟩⟩
  | list => exact ⟨s, .listed (s.list now).2, fun m => ⟨rfl, rfl⟩⟩

/-- So are calls of which none draws. Induction on the calls, along with the stores that they
leave. -/
theorem transcript_of_not_draws {calls : List Call} (h : ∀ c ∈ calls, c.draws = false) (s : Store)
    (m m' : Mint) : Run.transcript perform (s, m') calls = Run.transcript perform (s, m) calls := by
  induction calls generalizing s with
  | nil => rfl
  | cons c calls ih =>
    obtain ⟨hfirst, hrest⟩ := List.forall_mem_cons.mp h
    obtain ⟨t, reply, hcall⟩ := perform_of_not_draws hfirst s
    rw [Run.transcript_cons, Run.transcript_cons, (hcall m).1, (hcall m').1, (hcall m).2,
      (hcall m').2, ih hrest t]

/-- **A call that fails changes nothing but what it drew.** The file is left as it was, byte for
byte, or the table, row for row.

* Whatever the store is asked after the failed call, it answers as if the call had not been made and
  its draws alone were gone.
* What is asked without a create is not even changed by the draws: it is answered as if nothing had
  been asked before. -/
theorem perform_of_fault (s : Store) (m : Mint) (c : Call) {e : Fault}
    (h : (perform (s, m) c).answer.fault? = some e) :
    (perform (s, m) c).state = (s, c.drawn m)
      ∧ (∀ calls, Run.transcript perform (s, m) (c :: calls)
        = (c, (perform (s, m) c).answer) :: Run.transcript perform (s, c.drawn m) calls)
      ∧ ∀ calls, (∀ d ∈ calls, d.draws = false) →
        Run.transcript perform (s, m) (c :: calls)
          = (c, (perform (s, m) c).answer) :: Run.transcript perform (s, m) calls := by
  -- the three readings leave the store alone; the two writes leave it so when they fail
  have hstate : (perform (s, m) c).state = (s, c.drawn m) := by
    obtain ⟨now, action⟩ := c
    cases action with
    | create d =>
      have hfail : (create s m now d).answer = .error e := eq_error_of_fault? h
      exact state_create_of_error m now d hfail
    | update id change =>
      have hfail : (update s now id change).answer = .error e := eq_error_of_fault? h
      exact congrArg (·, m) (state_update_of_error now id change hfail)
    | get id => rfl
    | find keyHash => rfl
    | list => rfl
  refine ⟨hstate, fun calls => ?_, fun calls hcalls => ?_⟩
  · rw [Run.transcript_cons, hstate]
  · rw [Run.transcript_cons, hstate, transcript_of_not_draws hcalls s m (c.drawn m)]

/-- Two records, of which the first one has a name that is a lone surrogate. -/
def surrogateText : List Char :=
  "\x7b\"id\": \"a\", \"name\": \"\\ud800\", \"public_key\": \"p\"\x7d\n".toList
    ++ "\x7b\"id\": \"b\", \"name\": \"B\", \"public_key\": \"q\"\x7d\n".toList

/-- A record that cannot be written keeps another one from being changed, and the list of records
read afterwards is the one before. -/
theorem perform_of_fault_of_surrogate :
    let s : Store := .file ⟨"issuers.jsonl", some (.text surrogateText)⟩
    let m : Mint := { source := .counting }
    let c : Call := ⟨5, .update "b" { active := some false }⟩
    (perform (s, m) c).answer.fault? = some (.unwritable .unencodable)
      ∧ (perform (s, m) c).state = (s, m)
      ∧ ∀ now, Run.transcript perform (s, m) [c, ⟨now, .list⟩]
        = (c, (perform (s, m) c).answer) :: Run.transcript perform (s, m) [⟨now, .list⟩] := by
  intro s m c
  have hfault : (perform (s, m) c).answer.fault? = some (.unwritable .unencodable) := by
    decide +kernel
  obtain ⟨hstate, -, hlater⟩ := perform_of_fault s m c hfault
  refine ⟨hfault, hstate, fun now => hlater _ fun d hd => ?_⟩
  rw [List.mem_singleton.mp hd]
  rfl

end IssuerGate.Issuer.Store
