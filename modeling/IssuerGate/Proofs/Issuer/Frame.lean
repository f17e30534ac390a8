import IssuerGate.Proofs.Issuer.Operations
import IssuerGate.Proofs.Issuer.Refinement

/-!
# IssuerGate — what a rewritten file keeps of the old one

A create and an update write the whole file anew, from what was read of it.

* **`MembersKept`** — what is kept of an object that holds a record: the values of the ten members
  that records have. The tier and the active flag are kept as they are understood.
* **`Store.lines_kept`** — the well-formed lines of the old file are the lines of the new one, in
  order and each with its members kept, but for the record that is added or changed. Nothing else is
  in the new file: no line that was skipped, and no member that records do not have.
-/

namespace IssuerGate.Issuer

/-! ## Members -/

/-- The second object has the members of a record, with the values that the first one gives them. For
members that it lacks there are defaults. -/
structure MembersKept (createdAt : Text) (ms kept : List (Text × Json)) : Prop where
  names : kept.map Prod.fst = ["id", "name", "public_key", "tier", "is_active", "api_key_hash",
    "description", "website", "contact_email", "created_at"]
  values : ∀ k ∈ (["id", "name", "public_key", "api_key_hash", "description", "website",
    "contact_email"] : List Text), Json.lookup k kept = some ((Json.lookup k ms).getD .null)
  tier : Json.lookup "tier" kept
    = some (.str (Tier.ofStored ((Json.lookup "tier" ms).getD .null)).name)
  active : Json.lookup "is_active" kept
    = some (.bool ((Json.lookup "is_active" ms).getD (.bool true)).isTruthy)
  created : Json.lookup "created_at" kept
    = some ((Json.lookup "created_at" ms).getD (.str createdAt))

/-- A record keeps the members of the object that it is made of. -/
theorem membersKept_of_ofJson? {createdAt : Text} {v : Json} {r : Record}
    (h : Record.ofJson? createdAt v = some r) :
    ∃ ms, v = .obj ms ∧ MembersKept createdAt ms r.members := by
  rcases File.ofJson?_cases v with hnone | ⟨ms, id, name, publicKey, rfl, hid, hname, hkey, hsome⟩
  · rw [hnone] at h
    cases h
  · rw [hsome] at h
    obtain rfl := Option.some.inj h
    refine ⟨ms, rfl, rfl, ?_, rfl, rfl, rfl⟩
    simp only [List.forall_mem_cons, List.not_mem_nil, false_implies, implies_true, and_true]
    rw [hid, hname, hkey]
    exact ⟨rfl, rfl, rfl, rfl, rfl, rfl, rfl⟩

namespace File

/-! ## Lines -/

/-- The lines of a text that hold a record. -/
def wellFormed (depth : Nat) (createdAt : Text) (cs : List Char) : List (List Char) :=
  (lines cs).filter fun l => (readLine depth createdAt l).record?.isSome

/-- The second line holds an object that has kept the members of the one in the first line. -/
def LineKept (depth : Nat) (createdAt : Text) (old new : List Char) : Prop :=
  ∃ ms kept, valueOf depth old = .ok (.obj ms) ∧ Text.ofChars new = (Json.obj kept).write
    ∧ MembersKept createdAt ms kept

variable {depth : Nat} {createdAt : Text}

/-- A line that is read as a record has a value, and that value makes the record. -/
theorem ofJson?_of_readLine {l : List Char} {r : Record}
    (h : readLine depth createdAt l = .record r) :
    ∃ v, valueOf depth l = .ok v ∧ Record.ofJson? createdAt v = some r := by
  unfold readLine at h
  dsimp only at h
  split_ifs at h
  -- of a line that is not blank: malformed, too deep, or a value
  split at h
  · cases h
  · cases h
  · next v hv =>
    split at h
    · next r' hr' =>
      obtain rfl := Line.record.inj h
      exact ⟨v, hv, hr'⟩
    · cases h

theorem lineKept_of_readLine {old new : List Char} {r : Record}
    (hread : readLine depth createdAt old = .record r)
    (hwrite : Text.ofChars new = (Json.obj r.members).write) :
    LineKept depth createdAt old new := by
  obtain ⟨v, hv, hr⟩ := ofJson?_of_readLine hread
  obtain ⟨ms, rfl, hkept⟩ := membersKept_of_ofJson? hr
  exact ⟨ms, r.members, hv, hwrite, hkept⟩

/-- What is read are the records of the well-formed lines, one from each. -/
theorem forall₂_wellFormed {path : Text} {n : Nat} {ls : List (List Char)} {rs : List Record}
    (h : (readLines depth path createdAt n ls).2 = .ok rs) :
    List.Forall₂ (fun l r => readLine depth createdAt l = .record r)
      (ls.filter fun l => (readLine depth createdAt l).record?.isSome) rs := by
  induction ls generalizing n rs with
  | nil =>
    obtain rfl := Except.ok.inj h
    exact .nil
  | cons l ls ih =>
    rw [readLines] at h
    rw [List.filter_cons]
    cases hline : readLine depth createdAt l with
    | tooDeep c =>
      rw [hline] at h
      cases h
    -- a line that is skipped is in neither list
    | blank | malformed =>
      rw [hline] at h
      exact ih h
    | record r =>
      rw [hline] at h
      dsimp only at h
      cases hlater : (readLines depth path createdAt (n + 1) ls).2 with
      | error e =>
        rw [hlater] at h
        cases h
      | ok rs' =>
        rw [hlater] at h
        obtain rfl := Except.ok.inj h
        exact .cons hline (ih hlater)

/-- Lines from which records were read are kept by the lines that are written for these. -/
theorem forall₂_lineKept {ls news : List (List Char)} {rs : List Record}
    (hread : List.Forall₂ (fun l r => readLine depth createdAt l = .record r) ls rs)
    (hwrite : news.map Text.ofChars = rs.map fun r => (Json.obj r.members).write) :
    List.Forall₂ (LineKept depth createdAt) ls news := by
  induction hread generalizing news with
  | nil =>
    rw [List.map_eq_nil_iff.mp hwrite]
    exact .nil
  | cons hline _ ih =>
    obtain ⟨new, news, rfl, hnew, hnews⟩ := List.map_eq_cons_iff.mp hwrite
    exact .cons (lineKept_of_readLine hline hnew) (ih hnews)

/-- The lines of a written file are the objects of the records, in order. -/
theorem lines_of_mapM {room : Nat} {rs : List Record} {ls : List (List Char)}
    (h : rs.mapM (Record.lineChars room) = .ok ls) :
    (lines ls.flatten).map Text.ofChars = rs.map fun r => (Json.obj r.members).write := by
  induction rs generalizing ls with
  | nil =>
    obtain rfl := Except.ok.inj h
    rfl
  | cons r rs ih =>
    obtain ⟨l, hl⟩ := exists_lineChars_of_mapM h r List.mem_cons_self
    obtain ⟨-, cs, hwrite, rfl⟩ := Record.of_lineChars_eq_ok hl
    rw [mapM_lineChars_cons hl] at h
    cases hls : rs.mapM (Record.lineChars room) with
    | error e =>
      rw [hls] at h
      cases h
    | ok ls' =>
      rw [hls] at h
      obtain rfl := Except.ok.inj h
      -- only the line feed behind the object ends its line
      rw [List.flatten_cons, List.append_assoc, List.singleton_append,
        lines_append cs (Record.not_lineEnd_of_mem hwrite), List.map_cons, List.map_cons, ih hls,
        hwrite]

end File

namespace Store

/-- The lines of the file that the store is in, if it is in one and that can be read. -/
def lines : Store → List (List Char)
  | .file ⟨_, some (.text cs)⟩ => File.lines cs
  | _ => []

/-- A written file has a line for each record. -/
theorem lines_of_write {f g : File} {b : File.Bounds} {rs : List Record}
    (h : f.write b rs = .ok g) :
    (Store.file g).lines.map Text.ofChars = rs.map fun r => (Json.obj r.members).write := by
  unfold File.write File.contentOf at h
  cases hls : rs.mapM (Record.lineChars b.room) with
  | error e =>
    rw [hls] at h
    cases h
  | ok ls =>
    rw [hls] at h
    obtain rfl := Except.ok.inj h
    exact File.lines_of_mapM hls

/-! ## What is read, and what is written -/

variable {path : Text} {cs : List Char} {m : Mint} {now : Calendar.Instant} {id : Text}

/-- The records of a file are read from its well-formed lines, in order. -/
theorem forall₂_records {b : File.Bounds} {log : Log} {rs : List Record}
    (h : File.records ⟨path, some (.text cs)⟩ b now = (log, .ok rs)) :
    List.Forall₂ (fun l r => File.readLine b.depth (Calendar.textUtc now) l = .record r)
      (File.wellFormed b.depth (Calendar.textUtc now) cs) rs :=
  File.forall₂_wellFormed (congrArg Prod.snd h)

/-- After a creation the well-formed lines are kept, and the new record stands behind them. -/
theorem lines_kept_of_create {d : Draft} {r : Record} {key : Text}
    (h : (create (.file ⟨path, some (.text cs)⟩) m now d).answer = .ok (r, key)) :
    ∃ kept new, (create (.file ⟨path, some (.text cs)⟩) m now d).state.1.lines = kept ++ [new]
      ∧ List.Forall₂ (File.LineKept File.Bounds.add.depth (Calendar.textUtc now))
        (File.wellFormed File.Bounds.add.depth (Calendar.textUtc now) cs) kept
      ∧ Text.ofChars new = (Json.obj r.members).write := by
  rcases create_file_cases m now d ⟨path, some (.text cs)⟩ with
    ⟨log, e, hfail⟩ | ⟨log, rs, g, hread, hwrite, hdone⟩
  · rw [hfail] at h
    cases h
  · rw [hdone] at h ⊢
    obtain ⟨rfl, -⟩ := Prod.mk.inj (Except.ok.inj h)
    have hlines := lines_of_write hwrite
    rw [List.map_append] at hlines
    -- the written lines split as the records do
    obtain ⟨kept, last, hsplit, hkept, hlast⟩ := List.map_eq_append_iff.mp hlines
    obtain ⟨new, rfl, hnew⟩ := List.map_eq_singleton_iff.mp hlast
    exact ⟨kept, new, hsplit, File.forall₂_lineKept (forall₂_records hread) hkept, hnew⟩

/-- A change that meets a record leaves those before and behind it. -/
theorem exists_changeFirst_eq {rs : List Record} {r : Record} (c : Change)
    (h : rs.find? (·.hasId id) = some r) :
    ∃ before after, rs = before ++ r :: after
      ∧ changeFirst id c rs = before ++ r.apply c :: after := by
  rcases changeFirst_cases id c rs with ⟨-, hnone, -⟩ | ⟨i, q, -, hfind, hget, hchange⟩
  · rw [hnone] at h
    cases h
  · rw [hfind] at h
    obtain rfl := Option.some.inj h
    obtain ⟨hi, rfl⟩ := List.getElem?_eq_some_iff.mp hget
    refine ⟨rs.take i, rs.drop (i + 1), ?_, ?_⟩
    · rw [List.getElem_cons_drop hi, List.take_append_drop]
    · rw [hchange, List.modify_eq_take_cons_drop hi]

/-- After a change the well-formed lines are kept but for the one that is changed, at its place. -/
theorem lines_kept_of_update {c : Change} {found : Option Record}
    (h : (update (.file ⟨path, some (.text cs)⟩) now id c).answer = .ok found) :
    let x := update (.file ⟨path, some (.text cs)⟩) now id c
    let createdAt := Calendar.textUtc now
    let depth := File.Bounds.change.depth
    (found = none ∧ x.state = .file ⟨path, some (.text cs)⟩)
      ∨ ∃ before old after before' new after' r,
        File.wellFormed depth createdAt cs = before ++ old :: after
        ∧ x.state.lines = before' ++ new :: after'
        ∧ List.Forall₂ (File.LineKept depth createdAt) before before'
        ∧ List.Forall₂ (File.LineKept depth createdAt) after after'
        ∧ File.readLine depth createdAt old = .record r ∧ r.hasId id = true
        ∧ found = some (r.apply c) ∧ Text.ofChars new = (Json.obj (r.apply c).members).write := by
  intro x createdAt depth
  rcases update_file_cases now id c ⟨path, some (.text cs)⟩ with
    ⟨log, e, hfail⟩ | ⟨log, rs, -, -, hnone⟩ | ⟨log, rs, r, g, hread, hfind, hwrite, hdone⟩
  · rw [hfail] at h
    cases h
  · rw [hnone] at h
    refine Or.inl ⟨(Except.ok.inj h).symm, ?_⟩
    show (update _ _ _ _).state = _
    rw [hnone]
  · right
    rw [hdone] at h
    have hstate : x.state = .file g := congrArg Step.state hdone
    have hlines := lines_of_write hwrite
    have hreads := forall₂_records hread
    obtain ⟨firsts, others, rfl, hchange⟩ := exists_changeFirst_eq c hfind
    rw [hchange, List.map_append, List.map_cons] at hlines
    obtain ⟨before', rest', hsplit, hbefore', hrest'⟩ := List.map_eq_append_iff.mp hlines
    obtain ⟨new, after', rfl, hnew, hafter'⟩ := List.map_eq_cons_iff.mp hrest'
    -- the lines that were read are taken apart where the records are
    obtain ⟨old, after, hold, hafter, hdrop⟩ :=
      List.forall₂_cons_right_iff.mp (List.forall₂_drop_append _ _ _ hreads)
    have hbefore := List.forall₂_take_append _ _ _ hreads
    refine ⟨_, old, after, before', new, after', r, ?_, ?_,
      File.forall₂_lineKept hbefore hbefore', File.forall₂_lineKept hafter hafter', hold,
      List.find?_some hfind, (Except.ok.inj h).symm, hnew⟩
    · rw [← hdrop, List.take_append_drop]
    · rw [hstate]
      exact hsplit

/-- **A create and an update keep what the records of the file hold.** A text is rewritten as lines,
each of which is an object. After a create they are those that keep the well-formed lines of the text
and, behind them, that of the new record. After an update there is the changed record, at its place
between those that keep the other well-formed lines; and if no record has the id, the file is as it
was. -/
theorem lines_kept (path : Text) (cs : List Char) (now : Calendar.Instant) :
    let s := Store.file ⟨path, some (.text cs)⟩
    let createdAt := Calendar.textUtc now
    (∀ m d r key, (create s m now d).answer = .ok (r, key) →
      ∃ kept new, (create s m now d).state.1.lines = kept ++ [new]
        ∧ List.Forall₂ (File.LineKept File.Bounds.add.depth createdAt)
          (File.wellFormed File.Bounds.add.depth createdAt cs) kept
        ∧ Text.ofChars new = (Json.obj r.members).write)
    ∧ ∀ id c found, (update s now id c).answer = .ok found →
      (found = none ∧ (update s now id c).state = s)
        ∨ ∃ before old after before' new after' r,
          File.wellFormed File.Bounds.change.depth createdAt cs = before ++ old :: after
          ∧ (update s now id c).state.lines = before' ++ new :: after'
          ∧ List.Forall₂ (File.LineKept File.Bounds.change.depth createdAt) before before'
          ∧ List.Forall₂ (File.LineKept File.Bounds.change.depth createdAt) after after'
          ∧ File.readLine File.Bounds.change.depth createdAt old = .record r
          ∧ r.hasId id = true ∧ found = some (r.apply c)
          ∧ Text.ofChars new = (Json.obj (r.apply c).members).write := by
  intro s createdAt
  exact ⟨fun m d r key h => lines_kept_of_create h, fun id c found h => lines_kept_of_update h⟩

/-! ## A text that others wrote to

One line of it holds no record, and one holds a record of an unknown tier, with a member that records
do not have. -/

def foreignText : List Char :=
  "?\n".toList
    ++ "\x7b\"id\": \"a\", \"name\": \"A\", \"public_key\": \"p\", ".toList
    ++ "\"tier\": \"gold\", \"x\": 1\x7d\n".toList
    ++ "\x7b\"id\": \"b\", \"name\": \"B\", \"public_key\": \"q\"\x7d\n".toList

abbrev foreignStore : Store := .file ⟨"issuers.jsonl", some (.text foreignText)⟩

theorem exists_create_foreignStore :
    ∃ a, (create foreignStore { source := .counting } 5 { name := some "c" }).answer = .ok a := by
  have hdone : (create foreignStore { source := .counting } 5
      { name := some "c" }).answer.toOption.isSome = true := by
    decide +kernel
  cases hanswer : (create foreignStore { source := .counting } 5 { name := some "c" }).answer with
  | error e =>
    rw [hanswer] at hdone
    cases hdone
  | ok a => exact ⟨a, rfl⟩

theorem exists_update_foreignStore :
    ∃ r, (update foreignStore 5 "b" {}).answer = .ok (some r) := by
  have hfound : ((update foreignStore 5 "b" {}).answer.toOption.getD none).isSome = true := by
    decide +kernel
  cases hanswer : (update foreignStore 5 "b" {}).answer with
  | error e =>
    rw [hanswer] at hfound
    cases hfound
  | ok found =>
    rw [hanswer] at hfound
    obtain ⟨r, rfl⟩ := Option.isSome_iff_exists.mp hfound
    exact ⟨r, rfl⟩

/-- Both records are kept when a third one is added; and of those two, only the one of `b` is changed
when it is updated. -/
theorem lines_kept_of_foreign :
    let createdAt := Calendar.textUtc 5
    let depth := File.Bounds.change.depth
    (∃ kept new, (create foreignStore { source := .counting } 5
          { name := some "c" }).state.1.lines = kept ++ [new] ∧ kept.length = 2)
      ∧ ∃ r, (update foreignStore 5 "b" {}).answer = .ok (some r)
        ∧ ∃ before old after before' new after',
          File.wellFormed depth createdAt foreignText = before ++ old :: after
          ∧ (update foreignStore 5 "b" {}).state.lines = before' ++ new :: after'
          ∧ List.Forall₂ (File.LineKept depth createdAt) before before'
          ∧ List.Forall₂ (File.LineKept depth createdAt) after after'
          ∧ Text.ofChars new = (Json.obj r.members).write := by
  intro createdAt depth
  obtain ⟨hcreate, hupdate⟩ := lines_kept "issuers.jsonl" foreignText 5
  constructor
  · obtain ⟨⟨r, key⟩, hcreated⟩ := exists_create_foreignStore
    obtain ⟨kept, new, hnew, hkept, -⟩ := hcreate _ _ r key hcreated
    have hlength : (File.wellFormed File.Bounds.add.depth (Calendar.textUtc 5)
        foreignText).length = 2 := by
      decide +kernel
    exact ⟨kept, new, hnew, hkept.length_eq.symm.trans hlength⟩
  · obtain ⟨r, hr⟩ := exists_update_foreignStore
    refine ⟨r, hr, ?_⟩
    -- the issuer `b` is there, so the change met a record
    rcases hupdate "b" {} (some r) hr with
      ⟨hnone, -⟩ | ⟨before, old, after, before', new, after', q, hold, hnew, hbefore, hafter, -, -,
        hfound, hwrite⟩
    · cases hnone
    · rw [← Option.some.inj hfound] at hwrite
      exact ⟨before, old, after, before', new, after', hold, hnew, hbefore, hafter, hwrite⟩

/-- The value of a member of the object in a line. -/
def memberIn? (k : Text) (l : List Char) : Option Json :=
  (File.valueOf File.Bounds.change.depth l).toOption.bind (Json.member? k)

/-- Does a line hold a record that has another id? -/
def holdsOther (now : Calendar.Instant) (id : Text) (l : List Char) : Bool :=
  (File.readLine File.Bounds.change.depth (Calendar.textUtc now) l).record?.any (!·.hasId id)

/-- Each successful update keeps each line of the text, in some sense, in the lines that there are
then. -/
def EachLineKept
    (kept : Calendar.Instant → Text → List Char → List (List Char) → Prop) : Prop :=
  ∀ (path : Text) (cs : List Char) (now : Calendar.Instant) (id : Text) (c : Change)
    (found : Option Record),
    let x := update (.file ⟨path, some (.text cs)⟩) now id c
    x.answer = .ok found → ∀ l ∈ File.lines cs, kept now id l x.state.lines

/-- **Nothing else is kept**: no line that is skipped, no member of another record that records do
not have, and no tier of another record that is not understood. -/
theorem not_kept_of_foreign :
    (¬ EachLineKept fun now _ l news =>
        File.readLine File.Bounds.change.depth (Calendar.textUtc now) l = .malformed → l ∈ news)
      ∧ (¬ EachLineKept fun now id l news => holdsOther now id l = true →
        ∀ k, (memberIn? k l).isSome = true → ∃ l' ∈ news, (memberIn? k l').isSome = true)
      ∧ ¬ EachLineKept fun now id l news => holdsOther now id l = true →
        ∀ t, (memberIn? "tier" l).any (·.isText t) = true →
          ∃ l' ∈ news, (memberIn? "tier" l').any (·.isText t) = true := by
  obtain ⟨r, hr⟩ := exists_update_foreignStore
  -- a record beside the changed one has a member and a tier that are not the service's own
  have hother : ∃ l ∈ File.lines foreignText, holdsOther 5 "b" l = true
      ∧ (memberIn? "x" l).isSome = true ∧ (memberIn? "tier" l).any (·.isText "gold") = true := by
    decide +kernel
  obtain ⟨l, hl, hrecord, hmember, htier⟩ := hother
  refine ⟨fun h => ?_, fun h => ?_, fun h => ?_⟩
  · have hkept := h "issuers.jsonl" foreignText 5 "b" {} (some r) hr ['?'] (by decide +kernel) rfl
    exact absurd hkept (by decide +kernel)
  · have hkept := h "issuers.jsonl" foreignText 5 "b" {} (some r) hr l hl hrecord "x" hmember
    exact absurd hkept (by decide +kernel)
  · have hkept := h "issuers.jsonl" foreignText 5 "b" {} (some r) hr l hl hrecord "gold" htier
    exact absurd hkept (by decide +kernel)

end Store

end IssuerGate.Issuer
