import IssuerGate.Proofs.Issuer.File
import IssuerGate.Proofs.Json.Reading

/-!
# IssuerGate — files that others wrote

A file may hold any text. Its records are those of its well-formed lines, in order, `recordsIn`.

* **`Legible`** — what a text must be for its records to be kept: no line is nested too deep, no
  record is without a time of creation, which the clock would have to make up at each reading, and
  what the records hold can be written.
* **`records_of_legible`** — then every reader finds those records, whatever the clock says.
* **`lasting_of_legible`** — and each of them is read back once it is written.
-/

namespace IssuerGate.Issuer

namespace File

def Line.record? : Line → Option Record
  | record r => some r
  | _ => none

/-- The records of the well-formed lines of a text, in order. -/
def recordsIn (cs : List Char) : List Record :=
  (lines cs).filterMap fun l => (readLine Bounds.add.depth [] l).record?

/-- What a line holds between the white space at its ends. -/
abbrev valueOf (depth : Nat) (l : List Char) : Except Json.Fault Json :=
  Json.read depth (Text.ofChars l).strip

/-- A text whose records are kept as they are: it is not nested too deep for its readers, each
well-formed line says when its record was created, and the fields of the records hold no doubles, no
surrogates and no more nesting than there is room for. -/
structure Legible (cs : List Char) : Prop where
  shallow : ∀ l ∈ lines cs, ∀ c, valueOf Bounds.add.depth l ≠ .error (.tooDeep c)
  dated : ∀ l ∈ lines cs, ∀ v, valueOf Bounds.add.depth l = .ok v →
    (Record.ofJson? [] v).isSome = true → (v.member? "created_at").isSome = true
  noDouble : ∀ r ∈ recordsIn cs, ∀ m ∈ r.members, m.2.hasNoDouble = true
  encodable : ∀ r ∈ recordsIn cs, ∀ m ∈ r.members, m.2.isEncodable = true
  room : ∀ r ∈ recordsIn cs, r.overrun? Bounds.add.room = none

/-! ## Reading -/

/-- Lines that are not nested too deep give the records of those that are well-formed. -/
theorem readLines_of_not_tooDeep {depth : Nat} {createdAt : Text} {ls : List (List Char)}
    (h : ∀ l ∈ ls, ∀ c, readLine depth createdAt l ≠ .tooDeep c) (path : Text) (n : Nat) :
    (readLines depth path createdAt n ls).2
      = .ok (ls.filterMap fun l => (readLine depth createdAt l).record?) := by
  induction ls generalizing n with
  | nil => rfl
  | cons l ls ih =>
    obtain ⟨hl, hls⟩ := List.forall_mem_cons.mp h
    have htail := ih hls (n + 1)
    rw [readLines, List.filterMap_cons]
    -- blank and malformed lines are passed over, the latter with a warning
    cases hline : readLine depth createdAt l with
    | tooDeep c => exact absurd hline (hl c)
    | blank => exact htail
    | malformed => exact htail
    | record r =>
      dsimp only [Line.record?]
      rw [htail]
      rfl

/-- A value holds no record whatever the time, or an object's members are the fields of one: some of
them, or the defaults where they are missing. -/
theorem ofJson?_cases (v : Json) : (∀ createdAt, Record.ofJson? createdAt v = none)
    ∨ ∃ ms id name publicKey, v = .obj ms ∧ Json.lookup "id" ms = some id
      ∧ Json.lookup "name" ms = some name ∧ Json.lookup "public_key" ms = some publicKey
      ∧ ∀ createdAt, Record.ofJson? createdAt v = some {
        id := id
        name := name
        publicKey := publicKey
        tier := .ofStored ((Json.lookup "tier" ms).getD .null)
        active := ((Json.lookup "is_active" ms).getD (.bool true)).isTruthy
        keyHash := (Json.lookup "api_key_hash" ms).getD .null
        description := (Json.lookup "description" ms).getD .null
        website := (Json.lookup "website" ms).getD .null
        contactEmail := (Json.lookup "contact_email" ms).getD .null
        createdAt := (Json.lookup "created_at" ms).getD (.str createdAt) } := by
  cases v with
  | obj ms =>
    unfold Record.ofJson?
    dsimp only
    -- three members have to be there, the others have defaults, and one of them the date
    cases hid : Json.lookup "id" ms with
    | none => exact Or.inl fun _ => rfl
    | some id =>
      cases hname : Json.lookup "name" ms with
      | none => exact Or.inl fun _ => rfl
      | some name =>
        cases hkey : Json.lookup "public_key" ms with
        | none => exact Or.inl fun _ => rfl
        | some publicKey =>
          exact Or.inr ⟨ms, id, name, publicKey, rfl, hid, hname, hkey, fun _ => rfl⟩
  | null | bool | int | num | str | arr => exact Or.inl fun _ => rfl

/-- The clock makes up the times of creation that are missing, and nothing else. -/
theorem ofJson?_of_dated {v : Json}
    (h : (Record.ofJson? [] v).isSome = true → (v.member? "created_at").isSome = true)
    (createdAt : Text) : Record.ofJson? createdAt v = Record.ofJson? [] v := by
  rcases ofJson?_cases v with hnone | ⟨ms, id, name, publicKey, rfl, -, -, -, hsome⟩
  · rw [hnone, hnone]
  · rw [hsome] at h
    obtain ⟨created, hcreated⟩ := Option.isSome_iff_exists.mp (h rfl)
    change Json.lookup "created_at" ms = some created at hcreated
    rw [hsome, hsome, hcreated]
    rfl

/-- A line of a legible text is read alike at each depth and date. -/
theorem readLine_of_legible {cs l : List Char} (h : Legible cs) (hl : l ∈ lines cs) {depth : Nat}
    (hdepth : Bounds.add.depth ≤ depth) (createdAt : Text) :
    readLine depth createdAt l = readLine Bounds.add.depth [] l := by
  have hread := Json.read_of_le hdepth (h.shallow l hl)
  unfold readLine
  dsimp only
  rw [hread]
  split_ifs
  · rfl
  · split
    · rfl
    · rfl
    -- the clock is asked only for a value that was read
    · next v hv => rw [ofJson?_of_dated (h.dated l hl v hv)]

/-- A line stops for depth only where its value does. -/
theorem readLine_ne_tooDeep {depth : Nat} {l : List Char}
    (h : ∀ c, valueOf depth l ≠ .error (.tooDeep c)) (createdAt : Text) (c : CodePoint) :
    readLine depth createdAt l ≠ .tooDeep c := by
  unfold readLine
  dsimp only
  split_ifs
  · nofun
  · split
    · next d hd => exact absurd hd (h d)
    · nofun
    · split <;> nofun

/-- **Every reader finds the records of a legible text**, whenever it reads. -/
theorem records_of_legible {cs : List Char} (h : Legible cs) (path : Text) {b : Bounds}
    (hb : b ∈ readers) (now : Calendar.Instant) :
    (records ⟨path, some (.text cs)⟩ b now).2 = .ok (recordsIn cs) := by
  have hdepth : ∀ b ∈ readers, Bounds.add.depth ≤ b.depth := by decide
  have hsame (l : List Char) (hl : l ∈ lines cs) :=
    readLine_of_legible h hl (hdepth b hb) (Calendar.textUtc now)
  have hshallow : ∀ l ∈ lines cs, ∀ c, readLine b.depth (Calendar.textUtc now) l ≠ .tooDeep c := by
    intro l hl c
    rw [hsame l hl]
    exact readLine_ne_tooDeep (h.shallow l hl) [] c
  refine (readLines_of_not_tooDeep hshallow path 1).trans (congrArg Except.ok ?_)
  refine List.filterMap_congr fun l hl => ?_
  rw [hsame l hl]

/-! ## What was read -/

/-- What holds of all members holds of the one that is looked up. -/
theorem all_of_lookup {p : Json → Bool} {k : Text} {ms : List (Text × Json)} {v : Json}
    (hms : Json.allMembers p ms = true) (h : Json.lookup k ms = some v) : v.all p = true := by
  induction ms with
  | nil => cases h
  | cons m ms ih =>
    obtain ⟨hm, hms⟩ := Json.allMembers_cons.mp hms
    unfold Json.lookup at h
    split_ifs at h
    · rw [← Option.some.inj h]
      exact hm
    · exact ih hms h

/-- The members of a record that was read are values that were read. -/
theorem all_members_of_ofJson? {createdAt : Text} {v : Json} {r : Record}
    (hv : v.all Json.readHead = true) (h : Record.ofJson? createdAt v = some r) :
    ∀ m ∈ r.members, m.2.all Json.readHead = true := by
  rcases ofJson?_cases v with hnone | ⟨ms, id, name, publicKey, rfl, hid, hname, hkey, hsome⟩
  · rw [hnone] at h
    cases h
  · have hms : Json.allMembers Json.readHead ms = true := (Bool.and_eq_true_iff.mp hv).2
    have hfield (k : Text) (d : Json) (hd : d.all Json.readHead = true) :
        ((Json.lookup k ms).getD d).all Json.readHead = true := by
      cases hk : Json.lookup k ms with
      | none => exact hd
      | some w => exact all_of_lookup hms hk
    rw [hsome] at h
    rw [← Option.some.inj h]
    -- the tier and the flag are not as they were read, but of no consequence
    unfold Record.members
    simp only [List.forall_mem_cons, List.not_mem_nil, false_implies, implies_true, and_true]
    exact ⟨all_of_lookup hms hid, all_of_lookup hms hname, all_of_lookup hms hkey, rfl, rfl,
      hfield _ _ rfl, hfield _ _ rfl, hfield _ _ rfl, hfield _ _ rfl, hfield _ _ rfl⟩

/-- **What a legible text holds is read back once it is written.** -/
theorem lasting_of_legible {cs : List Char} (h : Legible cs) : ∀ r ∈ recordsIn cs, r.Lasting := by
  intro r hr
  have hdouble := h.noDouble r hr
  refine ⟨fun m hm => ?_, h.encodable r hr⟩
  obtain ⟨l, -, hline⟩ := List.mem_filterMap.mp hr
  -- the record was read from a line, so its numbers and names are such as reading makes them
  have hrecord : readLine Bounds.add.depth [] l = .record r := by
    cases hread : readLine Bounds.add.depth [] l with
    | record r' =>
      rw [hread] at hline
      rw [Option.some.inj hline]
    | blank | malformed | tooDeep =>
      rw [hread] at hline
      cases hline
  unfold readLine at hrecord
  dsimp only at hrecord
  split_ifs at hrecord
  split at hrecord
  · cases hrecord
  · cases hrecord
  · next v hv =>
    split at hrecord
    · next r' hr' =>
      obtain rfl := Line.record.inj hrecord
      have hvalue : v.all Json.readHead = true := Json.all_of_read hv
      exact Json.isPlain_of_readHead (all_members_of_ofJson? hvalue hr' m hm) (hdouble m hm)
    · cases hrecord

/-! ## A text with a blank line, a malformed one and one that holds a record -/

def nestedLine : List Char := ((Json.obj nested.members).write.chars?).getD []

/-- Three lines, of which the last one holds `nested`. -/
def mixedText : List Char := '\n' :: '?' :: '\n' :: (nestedLine ++ ['\n'])

theorem lasting_nested : nested.Lasting := ⟨by decide, by decide⟩

theorem overrun?_nested : nested.overrun? Bounds.add.room = none := by decide

theorem write_nested : (Json.obj nested.members).write = Text.ofChars nestedLine := by
  obtain ⟨cs, hwrite, -⟩ := Record.lineChars_of_encodable lasting_nested.encodable overrun?_nested
  unfold nestedLine
  rw [hwrite, Text.chars?_ofChars]
  rfl

/-- The mixed text has a blank line, a malformed one and a record. -/
theorem lines_mixedText : lines mixedText = [[], ['?'], nestedLine] :=
  calc lines mixedText
    _ = [] :: lines ('?' :: '\n' :: (nestedLine ++ ['\n'])) :=
      lines_append [] (List.forall_mem_nil _) _
    _ = [] :: ['?'] :: lines (nestedLine ++ ['\n']) :=
      congrArg _ (lines_append ['?'] (List.forall_mem_singleton.mpr (by decide)) _)
    _ = [[], ['?'], nestedLine] := by
      rw [lines_append nestedLine (Record.not_lineEnd_of_mem write_nested)]
      rfl

theorem recordsIn_mixedText : recordsIn mixedText = [nested] := by
  have hblank : readLine Bounds.add.depth [] [] = .blank := rfl
  have hmalformed : readLine Bounds.add.depth [] ['?'] = .malformed := rfl
  have hrecord : readLine Bounds.add.depth [] nestedLine = .record nested :=
    readLine_of_write lasting_nested overrun?_nested (by decide) write_nested []
  unfold recordsIn
  rw [lines_mixedText, List.filterMap_cons, hblank, List.filterMap_cons, hmalformed,
    List.filterMap_cons, hrecord]
  rfl

theorem valueOf_nestedLine : valueOf Bounds.add.depth nestedLine = .ok (.obj nested.members) := by
  have hstrip : (Json.obj nested.members).write.strip = (Json.obj nested.members).write :=
    Text.stripBy_of_ends (a := .scalar '\x7b') (b := .scalar '\x7d') (by decide) (by decide) _
  unfold valueOf
  rw [← write_nested, hstrip]
  exact Json.read_write (Record.isPlain_members lasting_nested.plain)
    (Record.overrun?_members overrun?_nested) (by decide)

theorem legible_mixedText : Legible mixedText where
  shallow := by
    -- of the three lines only the last has a value
    rw [lines_mixedText]
    have hblank : valueOf Bounds.add.depth [] = .error .malformed := rfl
    have hmalformed : valueOf Bounds.add.depth ['?'] = .error .malformed := rfl
    simp only [List.forall_mem_cons, hblank, hmalformed, valueOf_nestedLine]
    exact ⟨nofun, nofun, nofun, nofun⟩
  dated := by
    rw [lines_mixedText]
    have hblank : valueOf Bounds.add.depth [] = .error .malformed := rfl
    have hmalformed : valueOf Bounds.add.depth ['?'] = .error .malformed := rfl
    simp only [List.forall_mem_cons, hblank, hmalformed, valueOf_nestedLine]
    refine ⟨nofun, nofun, fun v hv _ => ?_, nofun⟩
    rw [← Except.ok.inj hv]
    rfl
  noDouble := by
    rw [recordsIn_mixedText]
    decide
  encodable := by
    rw [recordsIn_mixedText]
    decide
  room := by
    rw [recordsIn_mixedText]
    decide

end File

end IssuerGate.Issuer
