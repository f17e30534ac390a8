import IssuerGate.Proofs.Issuer.Legible

/-!
# IssuerGate — what a line says, it says alone

A file is read line by line, and what one line holds has no bearing on the others: a line is blank,
gives a record or is reported by its number.

* **`lines_append_of_closed`** — a text that ends its last line can be followed by anything.
* **`readLines_eq`** — the records and the reports of lines are those of each of them.
* **`records_append`** — so a file that goes on with more text gives the records of the first part
  and then those of the second, whatever the lines of either are.
-/

namespace IssuerGate.Issuer.File

/-! ## Texts and their lines -/

theorem lines_ne_nil {cs : List Char} (h : cs ≠ []) : lines cs ≠ [] := by
  unfold lines
  split
  · exact absurd rfl h
  · simp
  · split
    · simp
    · split <;> simp

/-- A line feed at the end of a text is not lost with its first character, unless it is that. -/
theorem getLast?_tail {c : Char} {cs : List Char} (h : (c :: cs).getLast? = some '\n')
    (hc : c ≠ '\n') : cs ≠ [] ∧ cs.getLast? = some '\n' := by
  cases cs with
  | nil => simp [hc] at h
  | cons d cs => simpa using h

/-- A character that ends no line stands in front of the first line after it. -/
theorem lines_cons {c : Char} (hfeed : c ≠ '\n') (hreturn : c ≠ '\r') {cs l : List Char}
    {ls : List (List Char)} (h : lines cs = l :: ls) : lines (c :: cs) = (c :: l) :: ls := by
  rw [lines, if_neg (by simp [hfeed, hreturn]), h]
  exact fun _ hc _ => hreturn hc

/-- **Lines that are ended stay as they are**, whatever follows. -/
theorem lines_append_of_closed {first : List Char} (h : first = [] ∨ first.getLast? = some '\n')
    (second : List Char) : lines (first ++ second) = lines first ++ lines second := by
  induction first using lines.induct with
  | case1 => simp [lines]
  | case2 rest ih =>
    have hrest : rest = [] ∨ rest.getLast? = some '\n' := by
      cases rest with
      | nil => exact Or.inl rfl
      | cons d rest => exact Or.inr (by simpa using h)
    simp [lines, ih hrest]
  | case3 c rest hpair hend ih =>
    have hlast : (c :: rest).getLast? = some '\n' := by simpa using h
    have hrest : rest = [] ∨ rest.getLast? = some '\n' := by
      cases rest with
      | nil => exact Or.inl rfl
      | cons d rest => exact Or.inr (by simpa using hlast)
    -- a line feed that follows a return belongs to it, but here none does
    have hlater : ∀ later, c = '\r' → rest ++ second ≠ '\n' :: later := by
      rintro later rfl hfeed
      obtain ⟨hne, -⟩ := getLast?_tail hlast (by decide)
      cases rest with
      | nil => exact hne rfl
      | cons d rest => exact hpair rest rfl (by simp_all)
    rw [List.cons_append, lines, lines, if_pos hend, if_pos hend, ih hrest, List.cons_append]
    · exact hpair
    · exact hlater
  | case4 c rest hpair hend hnil ih =>
    -- a text of one character that ends no line is not ended
    rw [not_or] at hend
    obtain ⟨hne, -⟩ := getLast?_tail (by simpa using h) hend.1
    exact absurd hnil (lines_ne_nil hne)
  | case5 c rest hpair hend l ls hcons ih =>
    rw [not_or] at hend
    obtain ⟨-, hlast⟩ := getLast?_tail (by simpa using h) hend.1
    have hrest := ih (Or.inr hlast)
    rw [hcons, List.cons_append] at hrest
    rw [List.cons_append, lines_cons hend.1 hend.2 hrest, lines_cons hend.1 hend.2 hcons,
      List.cons_append]

/-! ## What lines give -/

def Line.isMalformed : Line → Bool
  | malformed => true
  | _ => false

/-- The records in a text, in order, if none of its lines is nested too deep. -/
def recordsOf (depth : Nat) (createdAt : Text) (cs : List Char) : List Record :=
  (lines cs).filterMap fun l => (readLine depth createdAt l).record?

/-- The numbers of the malformed lines of a text, from one. -/
def malformedLines (depth : Nat) (createdAt : Text) (cs : List Char) : List Nat :=
  (lines cs).findIdxs (fun l => (readLine depth createdAt l).isMalformed) 1

/-- A report for each of some lines. -/
def reports (path : Text) (numbers : List Nat) : Log := numbers.flatMap (skipped path)

variable {depth : Nat}

/-- **A line is blank, gives a record or is malformed**, if it is not nested too deep. -/
theorem readLine_cases {l : List Char} (h : ∀ c, valueOf depth l ≠ .error (.tooDeep c))
    (createdAt : Text) :
    if (Text.ofChars l).strip = [] then readLine depth createdAt l = .blank
    else (∃ r, readLine depth createdAt l = .record r) ∨ readLine depth createdAt l = .malformed := by
  split
  · next hblank => simp [readLine, hblank]
  · next hsome =>
    have hshallow := readLine_ne_tooDeep h createdAt
    cases hline : readLine depth createdAt l with
    | blank =>
      -- only a line with nothing between its white space is blank
      unfold readLine at hline
      dsimp only at hline
      rw [if_neg hsome] at hline
      split at hline
      · cases hline
      · cases hline
      · split at hline <;> cases hline
    | record r => exact Or.inl ⟨r, rfl⟩
    | malformed => exact Or.inr rfl
    | tooDeep c => exact absurd hline (hshallow c)

/-- Where no line stops for depth, the warnings are about the malformed lines, by number. -/
theorem log_readLines_of_not_tooDeep {createdAt : Text} {ls : List (List Char)}
    (h : ∀ l ∈ ls, ∀ c, readLine depth createdAt l ≠ .tooDeep c) (path : Text) (n : Nat) :
    (readLines depth path createdAt n ls).1
      = reports path (ls.findIdxs (fun l => (readLine depth createdAt l).isMalformed) n) := by
  induction ls generalizing n with
  | nil => rfl
  | cons l ls ih =>
    obtain ⟨hl, hls⟩ := List.forall_mem_cons.mp h
    have htail := ih hls (n + 1)
    rw [readLines, List.findIdxs_cons]
    -- of the lines that are passed over, the malformed one is reported
    cases hline : readLine depth createdAt l with
    | tooDeep c => exact absurd hline (hl c)
    | blank => simpa [Line.isMalformed] using htail
    | malformed => simp [Line.isMalformed, htail, reports]
    | record r => simpa [Line.isMalformed] using htail

/-- **Reading a text gives the records of its lines and reports the malformed ones**, one by one. -/
theorem records_of_shallow {cs : List Char}
    (h : ∀ l ∈ lines cs, ∀ c, valueOf depth l ≠ .error (.tooDeep c)) (path : Text) (room : Nat)
    (now : Calendar.Instant) :
    records ⟨path, some (.text cs)⟩ ⟨depth, room⟩ now
      = (reports path (malformedLines depth (Calendar.textUtc now) cs),
        .ok (recordsOf depth (Calendar.textUtc now) cs)) := by
  have hshallow : ∀ l ∈ lines cs, ∀ c, readLine depth (Calendar.textUtc now) l ≠ .tooDeep c :=
    fun l hl => readLine_ne_tooDeep (h l hl) (Calendar.textUtc now)
  exact Prod.ext (log_readLines_of_not_tooDeep hshallow path 1)
    (readLines_of_not_tooDeep hshallow path 1)

/-! ## A text after another -/

/-- The records of a closed text and of one put behind it are those of both. -/
theorem recordsOf_append {first : List Char} (h : first = [] ∨ first.getLast? = some '\n')
    (second : List Char) (createdAt : Text) :
    recordsOf depth createdAt (first ++ second)
      = recordsOf depth createdAt first ++ recordsOf depth createdAt second := by
  simp [recordsOf, lines_append_of_closed h]

/-- The lines of the second text are counted on from those of the first. -/
theorem malformedLines_append {first : List Char} (h : first = [] ∨ first.getLast? = some '\n')
    (second : List Char) (createdAt : Text) :
    malformedLines depth createdAt (first ++ second)
      = malformedLines depth createdAt first
        ++ (malformedLines depth createdAt second).map (· + (lines first).length) := by
  have hcounted (n : Nat) :
      (lines second).findIdxs (fun l => (readLine depth createdAt l).isMalformed) n
        = ((lines second).findIdxs fun l => (readLine depth createdAt l).isMalformed).map (· + n) :=
    List.findIdxs_start
  unfold malformedLines
  rw [lines_append_of_closed h, List.findIdxs_append, hcounted, hcounted 1, List.map_map]
  congr 2
  funext n
  simp
  omega

/-- **Reading a file is local to its lines.** Where a text that ends its last line is followed by any
other, the records are those of the first and then those of the second, and so are the reports, with
the lines counted on; no reading fails. A line gives nothing if it is blank, and else one record or
one report. So no line hides or changes what another one holds. -/
theorem records_append (path : Text) (b : Bounds) (now : Calendar.Instant)
    {first second : List Char} (hclosed : first = [] ∨ first.getLast? = some '\n')
    (hshallow : ∀ l ∈ lines first ++ lines second, ∀ c, valueOf b.depth l ≠ .error (.tooDeep c)) :
    let createdAt := Calendar.textUtc now
    let found := recordsOf b.depth createdAt
    let bad := malformedLines b.depth createdAt
    let f : File := ⟨path, some (.text first)⟩
    let g : File := ⟨path, some (.text second)⟩
    f.records b now = (reports path (bad first), .ok (found first))
      ∧ g.records b now = (reports path (bad second), .ok (found second))
      ∧ (f.append (Utf8.encode (Text.ofChars second))).records b now
        = (reports path (bad first ++ (bad second).map (· + (lines first).length)),
          .ok (found first ++ found second))
      ∧ ∀ l ∈ lines first ++ lines second,
        if (Text.ofChars l).strip = [] then readLine b.depth createdAt l = .blank
        else (∃ r, readLine b.depth createdAt l = .record r)
          ∨ readLine b.depth createdAt l = .malformed := by
  intro createdAt found bad f g
  -- the bytes of both texts decode to both texts
  have hboth : f.append (Utf8.encode (Text.ofChars second))
      = ⟨path, some (.text (first ++ second))⟩ := by
    have hencode : Utf8.encode (Text.ofChars first) ++ Utf8.encode (Text.ofChars second)
        = Utf8.encode (Text.ofChars (first ++ second)) := by
      simp [Utf8.encode, Text.ofChars]
    simp [f, File.append, Content.bytes, hencode, Content.ofBytes, Utf8.chars?_encode]
  obtain ⟨hfirst, hsecond⟩ := List.forall_mem_append.mp hshallow
  have hlines : ∀ l ∈ lines (first ++ second), ∀ c, valueOf b.depth l ≠ .error (.tooDeep c) := by
    rw [lines_append_of_closed hclosed]
    exact hshallow
  refine ⟨records_of_shallow hfirst path b.room now, records_of_shallow hsecond path b.room now, ?_,
    fun l hl => ?_⟩
  · rw [hboth, ← malformedLines_append hclosed, ← recordsOf_append hclosed]
    exact records_of_shallow hlines path b.room now
  · exact readLine_cases (hshallow l hl) createdAt

/-- Three lines, of which the last one holds a record, are followed by two that hold none. -/
theorem records_append_of_mixed :
    let second : List Char := ['[', ']', '\r', '?']
    let f : File := ⟨"issuers.jsonl", some (.text mixedText)⟩
    (mixedText = [] ∨ mixedText.getLast? = some '\n')
      ∧ (∀ l ∈ lines mixedText ++ lines second, ∀ c,
        valueOf Bounds.add.depth l ≠ .error (.tooDeep c))
      ∧ (f.append (Utf8.encode (Text.ofChars second))).records .add 0
        = (reports "issuers.jsonl" [2, 4, 5], .ok [nested]) := by
  intro second f
  have hclosed : mixedText = [] ∨ mixedText.getLast? = some '\n' := by
    right
    show (('\n' :: '?' :: '\n' :: nestedLine) ++ ['\n']).getLast? = some '\n'
    exact List.getLast?_concat
  have hsecond : lines second = [['[', ']'], ['?']] := rfl
  have hshallow : ∀ l ∈ lines mixedText ++ lines second, ∀ c,
      valueOf Bounds.add.depth l ≠ .error (.tooDeep c) := by
    have hempty : valueOf Bounds.add.depth ['[', ']'] = .ok (.arr []) := rfl
    have hmalformed : valueOf Bounds.add.depth ['?'] = .error .malformed := rfl
    rw [List.forall_mem_append, hsecond]
    refine ⟨legible_mixedText.shallow, ?_⟩
    simp [hempty, hmalformed]
  obtain ⟨-, -, hboth, -⟩ := records_append "issuers.jsonl" .add 0 hclosed hshallow
  have hblank (createdAt : Text) : readLine Bounds.add.depth createdAt [] = .blank := rfl
  have hmalformed (createdAt : Text) : readLine Bounds.add.depth createdAt ['?'] = .malformed := rfl
  have hempty (createdAt : Text) : readLine Bounds.add.depth createdAt ['[', ']'] = .malformed := rfl
  have hrecord (createdAt : Text) : readLine Bounds.add.depth createdAt nestedLine = .record nested :=
    readLine_of_write lasting_nested overrun?_nested (by decide) write_nested createdAt
  refine ⟨hclosed, hshallow, ?_⟩
  -- the second text is neither blank nor a record, and its lines are counted on from three
  rw [hboth]
  simp [malformedLines, recordsOf, lines_mixedText, hsecond, hblank, hmalformed, hempty, hrecord,
    Line.isMalformed, Line.record?]

end IssuerGate.Issuer.File
