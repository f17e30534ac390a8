import IssuerGate.Issuer.File
import IssuerGate.Proofs.Json.Points
import Mathlib.Tactic.Tauto

/-!
# IssuerGate — one record, one line

A record is written on one line, and what stands on that line is read as the same record.

* **`Record.ofJson?_members`** — a record is made again from its members, whatever the clock says.
* **`Record.lineChars_of_encodable`**, **`Record.lineChars_of_not_encodable`** — when there is a
  line for a record, and what its characters are.
* **`File.readLine_of_write`** — the line is read as the record.
-/

namespace IssuerGate

namespace Text

theorem isSome_chars? (t : Text) : t.chars?.isSome = t.isEncodable := by
  induction t with
  | nil => rfl
  | cons c t ih =>
    cases c with
    | scalar c =>
      show (Text.chars? (.scalar c :: t)).isSome = Text.isEncodable t
      rw [← ih]
      unfold Text.chars?
      rw [List.mapM_cons]
      cases t.mapM CodePoint.char? <;> rfl
    | surrogate k => rfl

/-- Nothing is stripped from a text with other code points at its ends. -/
theorem stripBy_of_ends {p : CodePoint → Bool} {a b : CodePoint} (ha : p a = false)
    (hb : p b = false) (t : Text) : stripBy p (a :: t ++ [b]) = a :: t ++ [b] := by
  have hfront : (a :: t ++ [b]).dropWhile p = a :: t ++ [b] :=
    List.dropWhile_cons_of_neg (by rw [ha]; exact Bool.false_ne_true)
  have hback : (b :: (a :: t).reverse).dropWhile p = b :: (a :: t).reverse :=
    List.dropWhile_cons_of_neg (by rw [hb]; exact Bool.false_ne_true)
  unfold stripBy
  rw [hfront, List.reverse_append, List.reverse_singleton, List.singleton_append, hback,
    List.reverse_cons, List.reverse_reverse]

end Text

namespace Issuer

namespace Record

/-! ## The members of a record -/

/-- A record whose members can be read back, and which an encoding carries. -/
structure Lasting (r : Record) : Prop where
  plain : ∀ m ∈ r.members, m.2.isPlain = true
  encodable : ∀ m ∈ r.members, m.2.isEncodable = true

theorem ofJson?_members (createdAt : Text) (r : Record) :
    ofJson? createdAt (.obj r.members) = some r := by
  obtain ⟨id, name, publicKey, tier, active, keyHash, description, website, contact, created⟩ := r
  cases tier <;> rfl

/-- The object of a record is plain if its members are, as their names are all different. -/
theorem isPlain_members {r : Record} (h : ∀ m ∈ r.members, m.2.isPlain = true) :
    (Json.obj r.members).isPlain = true := by
  have hnames : r.members.map Prod.fst
      = ["id", "name", "public_key", "tier", "is_active", "api_key_hash", "description", "website",
        "contact_email", "created_at"] := rfl
  refine Json.isPlain_obj.mpr ⟨?_, Json.allMembers_iff.mpr h⟩
  rw [hnames]
  decide

theorem isEncodable_members {r : Record} :
    (Json.obj r.members).isEncodable = true ↔ ∀ m ∈ r.members, m.2.isEncodable = true := by
  show (true && Json.allMembers _ r.members) = true ↔ _
  rw [Bool.true_and]
  exact Json.allMembers_iff

theorem overrun?_eq_none_iff {room : Nat} {r : Record} :
    r.overrun? room = none ↔ ∀ m ∈ r.members, m.2.overrun? room = none :=
  List.findSome?_eq_none_iff

/-- The object of a record takes room of its own. -/
theorem overrun?_members {room : Nat} {r : Record} (h : r.overrun? room = none) :
    (Json.obj r.members).overrun? (room + 2) = none := by
  have hfits := overrun?_eq_none_iff.mp h
  have hflag : (Text.ofString "is_active", Json.bool r.active) ∈ r.members := by simp [members]
  have hroom : 3 ≤ room := Json.overrunSimple?_eq_none_iff.mp (hfits _ hflag)
  exact Json.overrun?_obj_eq_none_iff.mpr ⟨by omega, Json.overrunMembers?_eq_none hroom hfits⟩

/-! ## The line of a record -/

/-- There is a line for a record that an encoding carries. -/
theorem lineChars_of_encodable {room : Nat} {r : Record}
    (hcoded : ∀ m ∈ r.members, m.2.isEncodable = true) (hroom : r.overrun? room = none) :
    ∃ cs, (Json.obj r.members).write = Text.ofChars cs
      ∧ r.lineChars room = .ok (cs ++ ['\n']) := by
  have hcoded : (Json.obj r.members).write.chars?.isSome = true := by
    rw [Text.isSome_chars?, Json.isEncodable_write]
    exact isEncodable_members.mpr hcoded
  obtain ⟨cs, hcs⟩ := Option.isSome_iff_exists.mp hcoded
  have hwrite := Text.chars?_eq_some_iff.mp hcs
  -- the line is the written object and a line feed
  have hline : r.line = Text.ofChars (cs ++ ['\n']) := by
    unfold line
    rw [hwrite]
    unfold Text.ofChars
    rw [List.map_append]
    rfl
  refine ⟨cs, hwrite, ?_⟩
  unfold lineChars
  rw [hroom, hline]
  dsimp only
  rw [Text.chars?_ofChars]

/-- A record with a text that cannot be encoded cannot be written, room or not. -/
theorem lineChars_of_not_encodable {room : Nat} {r : Record}
    (hcoded : ¬ ∀ m ∈ r.members, m.2.isEncodable = true) (hroom : r.overrun? room = none) :
    r.lineChars room = .error .unencodable := by
  have hline : r.line.chars? = none := by
    rw [← Option.not_isSome_iff_eq_none, Text.isSome_chars?]
    intro hline
    unfold line Text.isEncodable at hline
    rw [List.all_append, Bool.and_eq_true] at hline
    have hwrite := (Json.isEncodable_write (.obj r.members)).symm.trans hline.1
    exact hcoded (isEncodable_members.mp hwrite)
  unfold lineChars
  rw [hroom]
  dsimp only
  rw [hline]

/-- A record that has a line fits, and the line is its object and a line feed. -/
theorem of_lineChars_eq_ok {room : Nat} {r : Record} {l : List Char}
    (h : r.lineChars room = .ok l) : r.overrun? room = none
      ∧ ∃ cs, (Json.obj r.members).write = Text.ofChars cs ∧ l = cs ++ ['\n'] := by
  cases hroom : r.overrun? room with
  | some o =>
    unfold lineChars at h
    rw [hroom] at h
    cases h
  | none =>
    by_cases hcoded : ∀ m ∈ r.members, m.2.isEncodable = true
    · obtain ⟨cs, hwrite, hline⟩ := lineChars_of_encodable hcoded hroom
      exact ⟨rfl, cs, hwrite, Except.ok.inj (h.symm.trans hline)⟩
    · rw [lineChars_of_not_encodable hcoded hroom] at h
      cases h

/-- **Which records have no line**: those that do not fit, and those with a text in them that an
encoding does not carry. -/
theorem exists_lineChars_error_iff {room : Nat} {r : Record} :
    (∃ e, r.lineChars room = .error e)
      ↔ r.overrun? room ≠ none ∨ ¬ ∀ m ∈ r.members, m.2.isEncodable = true := by
  -- the room is looked at first, and the encoding only where there is enough
  by_cases hroom : r.overrun? room = none
  · by_cases hcoded : ∀ m ∈ r.members, m.2.isEncodable = true
    · obtain ⟨cs, -, hline⟩ := lineChars_of_encodable hcoded hroom
      refine iff_of_false ?_ (by tauto)
      rintro ⟨e, he⟩
      rw [hline] at he
      cases he
    · exact iff_of_true ⟨_, lineChars_of_not_encodable hcoded hroom⟩ (Or.inr hcoded)
  · obtain ⟨o, ho⟩ := Option.ne_none_iff_exists'.mp hroom
    refine iff_of_true ⟨.tooDeep o, ?_⟩ (Or.inl hroom)
    unfold lineChars
    rw [ho]

/-- No line ends within the line of a record. -/
theorem not_lineEnd_of_mem {r : Record} {cs : List Char}
    (hwrite : (Json.obj r.members).write = Text.ofChars cs) :
    ∀ c ∈ cs, c ≠ '\n' ∧ c ≠ '\r' := by
  intro c hc
  have hmem : CodePoint.scalar c ∈ (Json.obj r.members).write :=
    hwrite ▸ List.mem_map_of_mem hc
  have hval := Json.le_val_of_mem_write hmem
  constructor
  · rintro rfl
    exact absurd hval (by decide)
  · rintro rfl
    exact absurd hval (by decide)

end Record

namespace File

/-- **The line of a record is read as the record.** -/
theorem readLine_of_write {r : Record} (hr : r.Lasting) {room depth : Nat}
    (hroom : r.overrun? room = none) (hdepth : room + 1 ≤ 2 * depth) {cs : List Char}
    (hwrite : (Json.obj r.members).write = Text.ofChars cs) (createdAt : Text) :
    readLine depth createdAt cs = .record r := by
  have hplain := Record.isPlain_members hr.plain
  have hread : Json.read depth (Json.obj r.members).write = .ok (.obj r.members) :=
    Json.read_write hplain (Record.overrun?_members hroom) (by omega)
  -- a record is written between braces, so there is nothing to strip
  have hstrip : (Json.obj r.members).write.strip = (Json.obj r.members).write :=
    Text.stripBy_of_ends (a := .scalar '\x7b') (b := .scalar '\x7d') (by decide) (by decide) _
  have hsome : (Json.obj r.members).write ≠ [] := List.cons_ne_nil _ _
  unfold readLine
  rw [← hwrite, hstrip]
  dsimp only
  rw [if_neg hsome, hread]
  dsimp only
  rw [Record.ofJson?_members]

/-- A line stands in front of the others. -/
theorem lines_append (cs : List Char) (h : ∀ c ∈ cs, c ≠ '\n' ∧ c ≠ '\r') (rest : List Char) :
    lines (cs ++ '\n' :: rest) = cs :: lines rest := by
  induction cs with
  | nil =>
    rw [List.nil_append, lines, if_pos (Or.inl rfl)]
    exact fun _ hreturn _ => absurd hreturn (by decide)
  | cons c cs ih =>
    obtain ⟨⟨hfeed, hreturn⟩, hcs⟩ := List.forall_mem_cons.mp h
    have hends : ¬ (c = '\n' ∨ c = '\r') := not_or.mpr ⟨hfeed, hreturn⟩
    rw [List.cons_append, lines, if_neg hends, ih hcs]
    exact fun _ heq _ => hreturn heq

end File

end Issuer

end IssuerGate
