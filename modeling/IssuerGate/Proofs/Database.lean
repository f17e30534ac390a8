import IssuerGate.Proofs.Issuer.Draft
import IssuerGate.Proofs.Issuer.Operations
import IssuerGate.Proofs.Run
import IssuerGate.Seed
import Mathlib.Data.List.Induction

/-!
# IssuerGate — seeding and migrating one database

Both ways to get the table of issuers start from a database without one. Seeding creates the table
if it is missing and records nothing; a migration that is not recorded creates it whether it is
missing or not.

* **`Seed.runOn_cases`** — what a seeding can do, refusals included.
* **`Database.Drawn`** — the issuers of a database are told apart by what was drawn for them, which
  each call keeps (`Drawn.perform`), so that a seeding meets no issuer with its own id or key.
* **`Database.Settled`** — once there is a table, later calls neither record the migration nor
  forget it (`Settled.perform`): the first call decides for all others.
* **`Database.Opens`** — whom a key opens, it opens ever after (`Opens.perform`).
* **`Database.seeded_of_run`** — so seedings succeed and their keys stay good, and migrations
  succeed unless a seeding came first.
* **`Database.not_migrated_of_seeded`** — where one did, none succeeds.
-/

namespace IssuerGate

/-! ## Draws -/

namespace Mint

/-- The mint after `n` more issuers that brought no public key. -/
def later (m : Mint) (n : Nat) : Mint :=
  { m with
    keys := m.keys + n
    publicKeys := m.publicKeys + n
    identifiers := m.identifiers + n }

/-- What is drawn for an issuer after `n` others, if none of them brings a public key. -/
def drawn (m : Mint) (n : Nat) : Issued := ((m.later n).issue none).2

/-- Each seeding draws the next of the mint. -/
theorem issue_later (m : Mint) (n : Nat) :
    (m.later n).issue none = (m.later (n + 1), m.drawn n) := rfl

/-- Nothing that tells issuers apart was drawn for both. -/
def Issued.Apart (a b : Issued) : Prop :=
  a.id ≠ b.id ∧ a.publicKey ≠ b.publicKey ∧ ApiKey.digest a.apiKey ≠ ApiKey.digest b.apiKey

instance : DecidableRel Issued.Apart := fun _ _ => inferInstanceAs (Decidable (_ ∧ _ ∧ _))

/-- The next `n` draws repeat nothing, and an encoding carries their ids. -/
def Unrepeated (m : Mint) (n : Nat) : Prop :=
  ∀ i < n, (m.drawn i).id.isEncodable = true ∧ ∀ j < i, (m.drawn j).Apart (m.drawn i)

instance (m : Mint) (n : Nat) : Decidable (m.Unrepeated n) :=
  inferInstanceAs (Decidable (∀ i < n, _ ∧ ∀ j < i, _))

end Mint

/-! ## One seeding -/

namespace Issuer

/-- The row of a new issuer is added unless it breaks a constraint. -/
theorem Table.insert_entry {d : Draft} {name : Text} (hname : d.name = some name) (t : Table)
    (issued : Mint.Issued) (now : Calendar.Instant) :
    t.insert now (entry d issued)
      = match t.clash? (rowOf d issued name now) with
        | some c => .error (.duplicate c)
        | none => .ok (t ++ [rowOf d issued name now], rowOf d issued name now) := by
  have hrow : (entry d issued).row now = .ok (rowOf d issued name now) :=
    row_entry_eq_ok_iff.mpr ⟨name, hname, rfl⟩
  unfold insert
  rw [hrow]
  rfl

namespace Store

variable {d : Draft} {m : Mint} (now : Calendar.Instant) (rows : Table)

theorem create_of_unencodable
    (h : (Table.entry d (m.issue d.publicKey).2).isEncodable = false) :
    create (.table (some rows)) m now d
      = ⟨(.table (some rows), (m.issue d.publicKey).1), [], .error (.unwritable .unencodable)⟩ := by
  unfold create
  dsimp only
  rw [h]
  rfl

variable {now rows} (h : (Table.entry d (m.issue d.publicKey).2).isEncodable = true)

include h

theorem create_of_insert_error {f : TableFault}
    (hinsert : rows.insert now (Table.entry d (m.issue d.publicKey).2) = .error f) :
    create (.table (some rows)) m now d
      = ⟨(.table (some rows), (m.issue d.publicKey).1), [], .error (.table f)⟩ := by
  unfold create
  dsimp only
  rw [h, rows_eq_ok_iff.mpr ⟨rfl, rfl⟩]
  dsimp only
  rw [hinsert]

theorem create_of_insert {t : Table} {r : Row}
    (hinsert : rows.insert now (Table.entry d (m.issue d.publicKey).2) = .ok (t, r)) :
    create (.table (some rows)) m now d
      = ⟨(.table (some t), (m.issue d.publicKey).1), [],
        .ok (r.record, (m.issue d.publicKey).2.apiKey)⟩ := by
  unfold create
  dsimp only
  rw [h, rows_eq_ok_iff.mpr ⟨rfl, rfl⟩]
  dsimp only
  rw [hinsert]

end Store

end Issuer

namespace Seed

/-- The name that the words of a command line give. -/
def named (args : List Text) : Text := (args.find? fun a => !isOption a).getD "Demo Issuer"

/-- Seeding makes the tables, and then prints what a creation answers. -/
theorem runOn_of_create {db : Database} {m m' : Mint} {now : Calendar.Instant} {args : List Text}
    {t : Issuer.Table} {a : Issuer.Store.Answer (Issuer.Record × Text)}
    (h : Issuer.Store.create (.table (some (db.issuers.getD []))) m now (draft args)
      = ⟨(.table (some t), m'), [], a⟩) :
    runOn db m now args
      = (({ db with issuers := some t }, m'), a.map fun (r, key) => report r key) := by
  unfold runOn run
  dsimp only [Database.createTables]
  rw [h]

/-- **What a seeding can do**: the table is there afterwards in any case, and in it the row of the
new issuer, unless an encoding cannot carry that or it breaks a constraint. -/
theorem runOn_cases (db : Database) (m : Mint) (now : Calendar.Instant) (args : List Text) :
    let rows := db.issuers.getD []
    let issued := (m.issue none).2
    let r := Issuer.Table.rowOf (draft args) issued (named args) now
    let coded := (draft args).isEncodable && issued.id.isEncodable
    (coded = false
        ∧ runOn db m now args
          = ((db.createTables, (m.issue none).1), .error (.unwritable .unencodable)))
      ∨ (∃ c, coded = true ∧ rows.clash? r = some c
        ∧ runOn db m now args
          = ((db.createTables, (m.issue none).1), .error (.table (.duplicate c))))
      ∨ (coded = true ∧ rows.clash? r = none
        ∧ runOn db m now args
          = (({ db with issuers := some (rows ++ [r]) }, (m.issue none).1),
            .ok (report r.record issued.apiKey))) := by
  intro rows issued r coded
  have hcoded : (Issuer.Table.entry (draft args) issued).isEncodable = coded :=
    Issuer.isEncodable_entry (draft args) m
  have hname : (draft args).name = some (named args) := rfl
  have hinsert := Issuer.Table.insert_entry hname rows issued now
  -- the statement is encoded first, and the constraints are checked after that
  cases hc : coded with
  | false =>
    have hcreate := Issuer.Store.create_of_unencodable (d := draft args) now rows (hcoded.trans hc)
    exact Or.inl ⟨rfl, runOn_of_create hcreate⟩
  | true =>
    cases hclash : rows.clash? r with
    | some c =>
      rw [hclash] at hinsert
      have hcreate :=
        Issuer.Store.create_of_insert_error (d := draft args) (hcoded.trans hc) hinsert
      exact Or.inr (Or.inl ⟨c, rfl, rfl, runOn_of_create hcreate⟩)
    | none =>
      rw [hclash] at hinsert
      have hcreate := Issuer.Store.create_of_insert (d := draft args) (hcoded.trans hc) hinsert
      exact Or.inr (Or.inr ⟨rfl, rfl, runOn_of_create hcreate⟩)

/-- In any case a seeding only adds to the issuers, touches nothing else of the database, and draws
for one issuer. -/
theorem exists_state_runOn (db : Database) (m : Mint) (now : Calendar.Instant) (args : List Text) :
    let r := Issuer.Table.rowOf (draft args) (m.issue none).2 (named args) now
    ∃ more, (∀ q ∈ more, q = r)
      ∧ (runOn db m now args).1
        = ({ db with issuers := some (db.issuers.getD [] ++ more) }, (m.issue none).1) := by
  intro r
  have hnone : db.createTables = { db with issuers := some (db.issuers.getD [] ++ []) } := by
    rw [List.append_nil]
    rfl
  rcases runOn_cases db m now args with ⟨-, hrun⟩ | ⟨_, -, -, hrun⟩ | ⟨-, -, hrun⟩
  · exact ⟨[], List.forall_mem_nil _, by rw [hrun, ← hnone]⟩
  · exact ⟨[], List.forall_mem_nil _, by rw [hrun, ← hnone]⟩
  · exact ⟨[r], fun q hq => List.mem_singleton.mp hq, by rw [hrun]⟩

end Seed

namespace Database

/-! ## Calls -/

/-- What is done to a database: an issuer is seeded from the words of a command line, or the
migration is run. -/
inductive Call where
  | seed (now : Calendar.Instant) (args : List Text)
  | upgrade

inductive Answer where
  | seeded (report : Issuer.Store.Answer Text)
  | upgraded (outcome : Except MigrationFault Unit)
deriving DecidableEq

/-- One call, beside the mint that draws for new issuers. -/
def perform (s : Database × Mint) : Call → Step (Database × Mint) Answer
  | .seed now args =>
    let (state, report) := Seed.runOn s.1 s.2 now args
    ⟨state, [], .seeded report⟩
  | .upgrade =>
    let (db, outcome) := s.1.upgrade
    ⟨(db, s.2), [], .upgraded outcome⟩

def Call.seeds : Call → Bool
  | .seed _ _ => true
  | .upgrade => false

def Answer.succeeded : Answer → Bool
  | .seeded a => a.isOk
  | .upgraded a => a.isOk

variable {s : Database × Mint}

/-- A migration changes no issuer. -/
theorem issuers_upgrade (db : Database) :
    (db.upgrade.1.issuers.getD [] : Issuer.Table) = db.issuers.getD [] := by
  unfold upgrade
  split
  · rfl
  · cases hissuers : db.issuers <;> simp

/-- A table that is there is only added to. -/
theorem issuers_perform {rows : Issuer.Table} (h : s.1.issuers = some rows) (c : Call) :
    ∃ more, (perform s c).state.1.issuers = some (rows ++ more) := by
  cases c with
  | seed now args =>
    obtain ⟨more, -, hstate⟩ := Seed.exists_state_runOn s.1 s.2 now args
    rw [h] at hstate
    exact ⟨more, congrArg (fun t => t.1.issuers) hstate⟩
  | upgrade =>
    refine ⟨[], ?_⟩
    unfold perform upgrade
    cases hrecorded : s.1.isRecorded <;> simp [h]

/-! ## The migration -/

/-- There is a table, and the migration is recorded or not. -/
structure Settled (recorded : Bool) (db : Database) : Prop where
  issuers : db.issuers.isSome = true
  recorded : db.isRecorded = recorded

/-- **The first call settles whether the migration is recorded.** -/
theorem settled_perform_nothing (m : Mint) (c : Call) :
    Settled (!c.seeds) (perform ({}, m) c).state.1 := by
  cases c with
  | seed now args =>
    show Settled false (Seed.runOn {} m now args).1.1
    obtain ⟨more, -, hstate⟩ := Seed.exists_state_runOn {} m now args
    rw [hstate]
    exact ⟨rfl, rfl⟩
  | upgrade => exact ⟨rfl, rfl⟩

/-- Later calls leave it so. -/
theorem Settled.perform {recorded : Bool} (h : Settled recorded s.1) (c : Call) :
    Settled recorded (perform s c).state.1 := by
  obtain ⟨rows, hrows⟩ := Option.isSome_iff_exists.mp h.issuers
  obtain ⟨more, hmore⟩ := issuers_perform hrows c
  refine ⟨by rw [hmore]; rfl, ?_⟩
  -- seeding writes no version; the upgrade does, but not where the table is there without one
  cases c with
  | seed now args =>
    show (Seed.runOn s.1 s.2 now args).1.1.isRecorded = recorded
    obtain ⟨more, -, hstate⟩ := Seed.exists_state_runOn s.1 s.2 now args
    rw [hstate]
    exact h.recorded
  | upgrade =>
    have hrecorded := h.recorded
    unfold Database.perform upgrade
    cases recorded with
    | true =>
      simp only [hrecorded, reduceIte]
    | false =>
      simp only [hrecorded, hrows]
      exact hrecorded

/-- On a settled database the upgrade does what its record says: nothing, or it fails at the table
that is there. -/
theorem Settled.upgrade {recorded : Bool} (h : Settled recorded s.1) :
    (Database.perform s .upgrade).answer
      = .upgraded (if recorded then .ok () else .error .tableExists) := by
  obtain ⟨rows, hrows⟩ := Option.isSome_iff_exists.mp h.issuers
  have hrecorded := h.recorded
  unfold Database.perform Database.upgrade
  cases recorded <;> simp [hrecorded, hrows]

/-- **A migration fails if and only if a seeding was the first call of all.** -/
theorem upgrade_after (m : Mint) (past : List Call) :
    (perform (Run.after perform ({}, m) past) .upgrade).answer
      = .upgraded (if past.head?.any Call.seeds then .error .tableExists else .ok ()) := by
  cases past with
  | nil => rfl
  | cons c past =>
    rw [Run.after_cons]
    have hsettled : Settled (!c.seeds) (Run.after perform (perform ({}, m) c).state past).1 :=
      Run.after_invariant (fun t : Database × Mint => Settled (!c.seeds) t.1)
        (fun _ c h => h.perform c) (settled_perform_nothing m c) past
    rw [hsettled.upgrade]
    cases hc : c.seeds <;> simp [hc]

/-! ## What was drawn -/

/-- The mint has drawn for `n` issuers, and the issuers of the database are some of them. -/
structure Drawn (mint : Mint) (n : Nat) (s : Database × Mint) : Prop where
  mint_eq : s.2 = mint.later n
  rows : ∀ r ∈ s.1.issuers.getD [], ∃ i < n, r.id = (mint.drawn i).id
    ∧ r.publicKey = (mint.drawn i).publicKey
    ∧ r.keyHash = some (ApiKey.digest (mint.drawn i).apiKey)

/-- A seeding adds a row of what it drew, or none, and an upgrade adds none. -/
theorem Drawn.perform {mint : Mint} {n : Nat} (h : Drawn mint n s) (c : Call) :
    Drawn mint (n + c.seeds.toNat) (perform s c).state := by
  cases c with
  | seed now args =>
    obtain ⟨more, hadded, hstate⟩ := Seed.exists_state_runOn s.1 s.2 now args
    rw [h.mint_eq, Mint.issue_later] at hadded hstate
    show Drawn mint (n + 1) (Seed.runOn s.1 s.2 now args).1
    rw [h.mint_eq, hstate]
    refine ⟨rfl, fun r hr => ?_⟩
    -- an old row was drawn earlier, the new one is what is drawn now
    rcases List.mem_append.mp hr with hold | hnew
    · obtain ⟨i, hi, hdrawn⟩ := h.rows r hold
      exact ⟨i, Nat.lt_succ_of_lt hi, hdrawn⟩
    · rw [hadded r hnew]
      exact ⟨n, Nat.lt_succ_self n, rfl, rfl, rfl⟩
  | upgrade =>
    refine ⟨h.mint_eq, fun r hr => h.rows r ?_⟩
    rw [← issuers_upgrade]
    exact hr

/-- An issuer for whom nothing is drawn that was drawn before breaks no constraint. -/
theorem Drawn.clash? {mint : Mint} {n : Nat} (h : Drawn mint n s) (hdraws : mint.Unrepeated (n + 1))
    (d : Issuer.Draft) (name : Text) (now : Calendar.Instant) :
    (s.1.issuers.getD [] : Issuer.Table).clash? (Issuer.Table.rowOf d (mint.drawn n) name now)
      = none := by
  have hapart : ∀ i < n, (mint.drawn i).Apart (mint.drawn n) := (hdraws n (Nat.lt_succ_self n)).2
  refine Issuer.Table.clash?_eq_none_iff.mpr ⟨fun q hq _ hsame => ?_, fun q hq hsame => ?_,
    fun q hq hsame => ?_⟩
  all_goals obtain ⟨i, hi, hid, hkey, hhash⟩ := h.rows q hq
  · exact (hapart i hi).2.2 (Option.some.inj (hhash.symm.trans hsame))
  · exact (hapart i hi).2.1 (hkey.symm.trans hsame)
  · exact (hapart i hi).1 (hid.symm.trans hsame)

/-- **A seeding succeeds if and only if an encoding carries the name.** -/
theorem Drawn.succeeded {mint : Mint} {n : Nat} (h : Drawn mint n s)
    (hdraws : mint.Unrepeated (n + 1)) (now : Calendar.Instant) (args : List Text) :
    (Database.perform s (.seed now args)).answer.succeeded = (Seed.draft args).isEncodable := by
  have hid : (s.2.issue none).2.id.isEncodable = true := by
    rw [h.mint_eq]
    exact (hdraws n (Nat.lt_succ_self n)).1
  show (Seed.runOn s.1 s.2 now args).2.isOk = _
  -- a clash would need something drawn twice
  rcases Seed.runOn_cases s.1 s.2 now args with
    ⟨hcoded, hrun⟩ | ⟨c, -, hclash, -⟩ | ⟨hcoded, -, hrun⟩
  · rw [hid, Bool.and_true] at hcoded
    rw [hrun, hcoded]
    rfl
  · have hnone := h.clash? hdraws (Seed.draft args) (Seed.named args) now
    rw [h.mint_eq, Mint.issue_later, hnone] at hclash
    cases hclash
  · rw [hid, Bool.and_true] at hcoded
    rw [hrun, hcoded]
    rfl

/-- After each run the rows are of what was drawn, as often as was seeded. -/
theorem drawn_after (mint : Mint) (past : List Call) :
    Drawn mint (past.countP Call.seeds) (Run.after perform ({}, mint) past) := by
  induction past using List.reverseRecOn with
  | nil => exact ⟨rfl, List.forall_mem_nil _⟩
  | append_singleton past c ih =>
    rw [Run.after_concat, List.countP_append]
    have hone : [c].countP Call.seeds = c.seeds.toNat := by cases c <;> rfl
    rw [hone]
    exact ih.perform c

/-! ## Keys -/

/-- Whom a key opens, as the store of the database finds it at any time by the hash of the key. -/
def Opens (db : Database) (key : Text) (r : Issuer.Record) : Prop :=
  ∃ keyHash, ApiKey.hash key = .ok keyHash
    ∧ ∀ now, (Issuer.Store.table db.issuers).findActive now keyHash = ([], .ok (some r))

/-- The store of a database finds the first row that is active and has the key hash. -/
theorem findActive_eq_iff {db : Database} {keyHash : Text} {r : Issuer.Record}
    (hcoded : keyHash.isEncodable = true) :
    (∀ now, (Issuer.Store.table db.issuers).findActive now keyHash = ([], .ok (some r)))
      ↔ ∃ rows q, db.issuers = some rows ∧ Issuer.Table.findActive? rows keyHash = some q
        ∧ q.record = r := by
  unfold Issuer.Store.findActive
  rw [hcoded]
  cases db.issuers with
  | none => simp [Issuer.Store.rows, Except.map]
  | some rows => simp [Issuer.Store.rows, Except.map]

/-- A key opens a record iff its hash finds the active row of it. -/
theorem opens_iff {db : Database} {key : Text} {r : Issuer.Record} :
    db.Opens key r ↔ ∃ keyHash rows q, ApiKey.hash key = .ok keyHash ∧ db.issuers = some rows
      ∧ Issuer.Table.findActive? rows keyHash = some q ∧ q.record = r := by
  unfold Opens
  constructor
  · rintro ⟨keyHash, hkey, hfound⟩
    obtain ⟨-, rfl⟩ := ApiKey.hash_eq_ok_iff.mp hkey
    obtain ⟨rows, q, hrows, hfind, hrecord⟩ :=
      (findActive_eq_iff (Hex.isEncodable_encode _)).mp hfound
    exact ⟨_, rows, q, hkey, hrows, hfind, hrecord⟩
  · rintro ⟨keyHash, rows, q, hkey, hrows, hfind, hrecord⟩
    obtain ⟨-, rfl⟩ := ApiKey.hash_eq_ok_iff.mp hkey
    exact ⟨_, hkey, (findActive_eq_iff (Hex.isEncodable_encode _)).mpr ⟨rows, q, hrows, hfind, hrecord⟩⟩

/-- **Whom a key opens, it opens ever after.** -/
theorem Opens.perform {key : Text} {r : Issuer.Record} (h : s.1.Opens key r) (c : Call) :
    (perform s c).state.1.Opens key r := by
  obtain ⟨keyHash, rows, q, hkey, hrows, hfind, hrecord⟩ := opens_iff.mp h
  obtain ⟨more, hmore⟩ := issuers_perform hrows c
  refine opens_iff.mpr ⟨keyHash, _, q, hkey, hmore, ?_, hrecord⟩
  unfold Issuer.Table.findActive? at hfind ⊢
  rw [List.find?_append, hfind]
  rfl

/-- The database keeps what a seeding has printed: the key opens an issuer that is active, with the
name and of the tier that were asked for. -/
def Honours (db : Database) (args : List Text) (text : Text) : Prop :=
  ∃ r key, text = Seed.report r key ∧ r.name = .str (Seed.named args)
    ∧ r.tier = (Seed.draft args).tier ∧ r.active = true ∧ db.Opens key r

/-- What a seeding adds is found, as no issuer before it has its key. -/
theorem honours_of_seeded {now : Calendar.Instant} {args : List Text} {text : Text}
    (h : (perform s (.seed now args)).answer = .seeded (.ok text)) :
    (perform s (.seed now args)).state.1.Honours args text := by
  have hreport : (Seed.runOn s.1 s.2 now args).2 = .ok text := Answer.seeded.inj h
  show (Seed.runOn s.1 s.2 now args).1.1.Honours args text
  rcases Seed.runOn_cases s.1 s.2 now args with
    ⟨-, hrun⟩ | ⟨_, -, -, hrun⟩ | ⟨-, hclash, hrun⟩
  · rw [hrun] at hreport
    cases hreport
  · rw [hrun] at hreport
    cases hreport
  · rw [hrun] at hreport ⊢
    obtain rfl := Except.ok.inj hreport
    refine ⟨_, _, rfl, rfl, Tier.ofStored_name _, rfl,
      opens_iff.mpr ⟨_, _, _, Mint.hash_apiKey_issue s.2 none, rfl, ?_, rfl⟩⟩
    -- the row is the first one with its key hash, or else it would have been kept out
    have hothers := (Issuer.Table.clash?_eq_none_iff.mp hclash).1
    have hnone : Issuer.Table.findActive? (s.1.issuers.getD [])
        (ApiKey.digest (s.2.issue none).2.apiKey) = none :=
      List.find?_eq_none.mpr fun q hq => by
        have hother : q.keyHash ≠ some (ApiKey.digest (s.2.issue none).2.apiKey) := hothers q hq rfl
        simp [hother]
    unfold Issuer.Table.findActive? at hnone ⊢
    rw [List.find?_append, hnone]
    simp [Issuer.Table.rowOf]

/-- **What seedings have printed is kept**, whatever is done later. -/
theorem honours_after (mint : Mint) (past : List Call) :
    ∀ now args text, (.seed now args, .seeded (.ok text)) ∈ Run.transcript perform ({}, mint) past →
      (Run.after perform ({}, mint) past).1.Honours args text := by
  -- from the back: a line was printed before the last call, and its row is kept, or by it
  induction past using List.reverseRecOn with
  | nil =>
    intro now args text hline
    cases hline
  | append_singleton past c ih =>
    intro now args text hline
    rw [Run.transcript_concat] at hline
    rw [Run.after_concat]
    rcases List.mem_append.mp hline with hearlier | hnow
    · obtain ⟨r, key, htext, hname, htier, hactive, hopens⟩ := ih now args text hearlier
      exact ⟨r, key, htext, hname, htier, hactive, hopens.perform c⟩
    · obtain ⟨rfl, hanswer⟩ := Prod.mk.inj (List.mem_singleton.mp hnow)
      exact honours_of_seeded hanswer.symm

/-! ## Runs -/

/-- **Seeding and migrating one database** that starts with nothing, in any order and at any
readings of the clock, as long as nothing is drawn twice.

* A seeding succeeds if and only if an encoding carries the name that it is given.
* A migration succeeds unless the first call of all was a seeding. Then the table is in its way,
  however often it is tried.
* What a seeding has printed is kept: the key opens the issuer, whatever is done later. -/
theorem seeded_of_run (mint : Mint) (past : List Call)
    (hdraws : mint.Unrepeated (past.countP Call.seeds + 1)) :
    let s := Run.after perform ({}, mint) past
    (∀ now args, (perform s (.seed now args)).answer.succeeded = (Seed.draft args).isEncodable)
      ∧ (perform s .upgrade).answer
        = .upgraded (if past.head?.any Call.seeds then .error .tableExists else .ok ())
      ∧ ∀ now args text,
        (.seed now args, .seeded (.ok text)) ∈ Run.transcript perform ({}, mint) past →
        ∃ r key, text = Seed.report r key ∧ r.name = .str (Seed.named args)
          ∧ r.tier = (Seed.draft args).tier ∧ r.active = true
          ∧ ∃ keyHash, ApiKey.hash key = .ok keyHash
            ∧ ∀ moment, (Issuer.Store.table s.1.issuers).findActive moment keyHash
              = ([], .ok (some r)) := by
  intro s
  exact ⟨(drawn_after mint past).succeeded hdraws, upgrade_after mint past,
    honours_after mint past⟩

/-! ## A seeding first -/

/-- An issuer is seeded before the migration, and another one after it. -/
def seedingFirst : List Call := [.seed 5 [], .upgrade, .seed 7000000 ["--paid", "Acme"]]

/-- What is printed of the first issuer. -/
def firstPrinted : Text :=
  Text.ofString "Created issuer 00000000-0000-4000-8000-000000000001 (free)\n"
    ++ Text.ofString "x-api-key: ck_000000000000000000000000000000000000000000000001\n"

/-- The migration fails, as often as it is tried, and the key of the first issuer is good. -/
theorem seeded_of_run_of_seed_first :
    let mint : Mint := { source := .counting }
    let s := Run.after perform ({}, mint) seedingFirst
    mint.Unrepeated (seedingFirst.countP Call.seeds + 1)
      ∧ (perform s (.seed 9000000 ["Beta"])).answer.succeeded = true
      ∧ (perform s .upgrade).answer = .upgraded (.error .tableExists)
      ∧ ∃ r key, firstPrinted = Seed.report r key ∧ r.name = .str "Demo Issuer" ∧ r.tier = .free
        ∧ r.active = true
        ∧ ∃ keyHash, ApiKey.hash key = .ok keyHash
          ∧ ∀ moment, (Issuer.Store.table s.1.issuers).findActive moment keyHash
            = ([], .ok (some r)) := by
  intro mint s
  have hdraws : mint.Unrepeated (seedingFirst.countP Call.seeds + 1) := by decide +kernel
  obtain ⟨hseed, hupgrade, hkept⟩ := seeded_of_run mint seedingFirst hdraws
  have hfirst : (perform ({}, mint) (.seed 5 [])).answer = .seeded (.ok firstPrinted) := by
    decide +kernel
  -- the first call of the run is the one that printed the key
  have hline : (Call.seed 5 [], Answer.seeded (.ok firstPrinted))
      ∈ Run.transcript perform ({}, mint) seedingFirst := by
    rw [← hfirst]
    exact List.mem_cons_self
  have hcoded : (Seed.draft ["Beta"]).isEncodable = true := by decide
  dsimp only [s]
  exact ⟨hdraws, (hseed 9000000 ["Beta"]).trans hcoded, hupgrade, hkept 5 [] firstPrinted hline⟩

/-- **A migration does not go with any seeding**: it is not so that all calls succeed whenever an
encoding carries the names and nothing is drawn twice. -/
theorem not_migrated_of_seeded :
    ¬ ∀ (mint : Mint) (calls : List Call),
      mint.Unrepeated (calls.countP Call.seeds) →
      (∀ now args, .seed now args ∈ calls → (Seed.draft args).isEncodable = true) →
      ∀ line ∈ Run.transcript perform ({}, mint) calls, line.2.succeeded = true := by
  intro hall
  have hencodable : ∀ now args, .seed now args ∈ [Call.seed 5 [], .upgrade] →
      (Seed.draft args).isEncodable = true := by
    intro now args hmem
    obtain ⟨-, rfl⟩ : now = 5 ∧ args = [] := by simpa using hmem
    rfl
  have hsucceeded := hall { source := .counting } [.seed 5 [], .upgrade] (by decide +kernel)
    hencodable (.upgrade, .upgraded (.error .tableExists))
    (List.mem_cons_of_mem _ List.mem_cons_self)
  cases hsucceeded

end Database

end IssuerGate
