import IssuerGate.Proofs.Json.Nesting
import IssuerGate.Proofs.Json.Scalar

/-!
# IssuerGate — values read back from their text

Reading undoes writing for values without doubles, `read_write`. Three things can stand in the way:
a whole number with more digits than are read, an object that has a name twice, both of which
`isPlain` rules out, and nesting, for which `overrun?` has to find room.

The induction has three parts that follow the writer's: a value, the items of an array and the
members of an object. `readValue_write` says that the reader stops right behind a written value.
-/

namespace IssuerGate.Json

/-- What a value must have of itself to be read back: it is no double, has no more digits than are
read and no name twice. -/
def plainHead : Json → Bool
  | num _ => false
  | int i => decide ((Text.ofNat i.natAbs).length ≤ Text.maxDigits)
  | obj ms => decide (ms.map Prod.fst).Nodup
  | _ => true

/-- Are all values within a value such that they can be read back? -/
def isPlain (v : Json) : Bool := v.all plainHead

theorem isPlain_arr {xs : List Json} : (arr xs).isPlain = true ↔ allItems plainHead xs = true :=
  Iff.rfl

/-- An object is plain iff no name stands in it twice and its values are plain. -/
theorem isPlain_obj {ms : List (Text × Json)} : (obj ms).isPlain = true
    ↔ (ms.map Prod.fst).Nodup ∧ allMembers plainHead ms = true := by
  unfold isPlain all plainHead
  rw [Bool.and_eq_true, decide_eq_true_iff]

/-! ## Objects with distinct names -/

theorem setMember_of_not_mem {name : Text} {ms : List (Text × Json)}
    (h : name ∉ ms.map Prod.fst) (v : Json) : setMember name v ms = ms ++ [(name, v)] := by
  induction ms with
  | nil => rfl
  | cons m ms ih =>
    rw [List.map_cons, List.mem_cons, not_or] at h
    unfold setMember
    rw [if_neg fun heq => h.1 heq.symm, ih h.2, List.cons_append]

/-- Members whose names are all different are collected as they stand. -/
theorem foldl_setMember (seen : List (Text × Json)) {ms : List (Text × Json)}
    (h : ((seen ++ ms).map Prod.fst).Nodup) :
    ms.foldl (fun seen (k, v) => setMember k v seen) seen = seen ++ ms := by
  induction ms generalizing seen with
  | nil => exact (List.append_nil seen).symm
  | cons m ms ih =>
    obtain ⟨k, v⟩ := m
    -- the induction moves the first member over to those seen already
    have hnew : k ∉ seen.map Prod.fst := by
      rw [List.map_append, List.map_cons, List.nodup_append] at h
      intro hmem
      exact h.2.2 k hmem k List.mem_cons_self rfl
    have hshift : seen ++ (k, v) :: ms = seen ++ [(k, v)] ++ ms := by
      rw [List.append_assoc, List.singleton_append]
    rw [List.foldl_cons]
    dsimp only
    rw [setMember_of_not_mem hnew, hshift]
    exact ih (seen ++ [(k, v)]) (hshift ▸ h)

/-- Members with distinct names are collected as they are. -/
theorem collect_of_nodup {ms : List (Text × Json)} (h : (ms.map Prod.fst).Nodup) :
    collect ms = ms :=
  foldl_setMember [] h

/-! ## How a written value starts -/

theorem skipSpace_cons_of_not_isSpace {c : CodePoint} (h : isSpace c = false) (t : Text) :
    skipSpace (c :: t) = c :: t :=
  List.dropWhile_cons_of_neg (by rw [h]; exact Bool.false_ne_true)

/-- A text starts with a code point that the reader does not skip and that closes no array. -/
def Opens (t : Text) : Prop := ∃ c u, t = c :: u ∧ isSpace c = false ∧ c ≠ .scalar ']'

theorem Opens.append {t : Text} (h : Opens t) (u : Text) : Opens (t ++ u) := by
  obtain ⟨c, v, rfl, hspace, hclose⟩ := h
  exact ⟨c, v ++ u, rfl, hspace, hclose⟩

theorem Opens.skipSpace {t : Text} (h : Opens t) : skipSpace t = t := by
  obtain ⟨c, u, rfl, hspace, -⟩ := h
  exact skipSpace_cons_of_not_isSpace hspace u

/-- The space behind a comma or a colon is all that is skipped. -/
theorem Opens.skipSpace_cons {t : Text} (h : Opens t) :
    Json.skipSpace (.scalar ' ' :: t) = t := h.skipSpace

theorem opens_writeString (t : Text) : Opens (writeString t) :=
  ⟨.scalar '"', _, rfl, by decide, by decide⟩

/-- An integer is written with a digit or a minus sign in front. -/
theorem ofInt_eq_cons (i : Int) : ∃ c u, Text.ofInt i = c :: u ∧
    ∀ d, isDigit d = false → d ≠ .scalar '-' → c ≠ d := by
  -- a sign is written for what is below zero, and a digit comes first otherwise
  cases i with
  | ofNat n =>
    obtain ⟨c, u, hcu⟩ := List.exists_cons_of_ne_nil (ofNat_ne_nil n)
    have hc : isDigit c = true := isDigit_of_mem_ofNat (hcu ▸ List.mem_cons_self)
    refine ⟨c, u, hcu, ?_⟩
    rintro d hd - rfl
    rw [hc] at hd
    cases hd
  | negSucc n => exact ⟨.scalar '-', _, rfl, fun d _ hminus => hminus.symm⟩

theorem opens_ofInt (i : Int) : Opens (Text.ofInt i) := by
  obtain ⟨c, u, hcu, hne⟩ := ofInt_eq_cons i
  refine ⟨c, u, hcu, ?_, hne _ (by decide) (by decide)⟩
  unfold isSpace
  rw [beq_eq_false_iff_ne.mpr (hne (.scalar ' ') (by decide) (by decide)),
    beq_eq_false_iff_ne.mpr (hne (.scalar '\t') (by decide) (by decide)),
    beq_eq_false_iff_ne.mpr (hne (.scalar '\n') (by decide) (by decide)),
    beq_eq_false_iff_ne.mpr (hne (.scalar '\r') (by decide) (by decide))]
  rfl

/-- Each plain value opens when written, by its first letter, digit, sign or bracket. -/
theorem opens_write {v : Json} (h : v.isPlain = true) : Opens (write v) := by
  cases v with
  | null => exact ⟨.scalar 'n', _, rfl, by decide, by decide⟩
  | bool b =>
    cases b with
    | false => exact ⟨.scalar 'f', _, rfl, by decide, by decide⟩
    | true => exact ⟨.scalar 't', _, rfl, by decide, by decide⟩
  | int i => exact opens_ofInt i
  | num x => cases h
  | str t => exact opens_writeString t
  | arr xs => exact ⟨.scalar '[', _, rfl, by decide, by decide⟩
  | obj ms => exact ⟨.scalar '\x7b', _, rfl, by decide, by decide⟩

theorem writeItems_cons (v w : Json) (vs : List Json) :
    writeItems (v :: w :: vs) = write v ++ Text.ofString ", " ++ writeItems (w :: vs) := rfl

theorem writeMembers_cons (k : Text) (v : Json) (m : Text × Json) (ms : List (Text × Json)) :
    writeMembers ((k, v) :: m :: ms)
      = writeString k ++ Text.ofString ": " ++ write v ++ Text.ofString ", "
        ++ writeMembers (m :: ms) := rfl

theorem opens_writeItems {v : Json} {vs : List Json} (h : allItems plainHead (v :: vs) = true) :
    Opens (writeItems (v :: vs)) := by
  have hv : Opens (write v) := opens_write (allItems_cons.mp h).1
  cases vs with
  | nil => exact hv
  | cons w vs =>
    rw [writeItems_cons, List.append_assoc]
    exact hv.append _

theorem opens_writeMembers (m : Text × Json) (ms : List (Text × Json)) :
    Opens (writeMembers (m :: ms)) := by
  obtain ⟨k, v⟩ := m
  have hk : Opens (writeString k) := opens_writeString k
  cases ms with
  | nil =>
    rw [writeMembers, List.append_assoc]
    exact hk.append _
  | cons m ms =>
    rw [writeMembers_cons, List.append_assoc, List.append_assoc, List.append_assoc]
    exact hk.append _

/-- Nothing is skipped behind the bracket that opens an array, be it empty or not. -/
theorem skipSpace_writeItems {xs : List Json} (h : allItems plainHead xs = true) (rest : Text) :
    skipSpace (writeItems xs ++ .scalar ']' :: rest) = writeItems xs ++ .scalar ']' :: rest := by
  cases xs with
  | nil => rfl
  | cons v vs => exact ((opens_writeItems h).append _).skipSpace

/-- Nothing is skipped behind the bracket that opens an object, be it empty or not. -/
theorem skipSpace_writeMembers (ms : List (Text × Json)) (rest : Text) :
    skipSpace (writeMembers ms ++ .scalar '\x7d' :: rest)
      = writeMembers ms ++ .scalar '\x7d' :: rest := by
  cases ms with
  | nil => rfl
  | cons m ms => exact ((opens_writeMembers m ms).append _).skipSpace

/-! ## The reader's steps -/

variable {fuel depth : Nat} {t u rest : Text} {v : Json}

/-- What starts with neither a quotation mark nor a bracket is read as a scalar. -/
theorem readValue_of_readScalar {c : CodePoint} (hstring : c ≠ .scalar '"')
    (harray : c ≠ .scalar '[') (hobject : c ≠ .scalar '\x7b')
    (h : readScalar (c :: t) = .ok (v, rest)) :
    readValue (fuel + 1) depth (c :: t) = .ok (v, rest) := by
  unfold readValue
  rw [if_neg hstring, if_neg harray, if_neg hobject]
  exact h

/-- A written text is read back, whatever follows it. -/
theorem readValue_string (s : Text) :
    readValue (fuel + 1) depth (writeString s ++ rest) = .ok (.str s, rest) := by
  have hread := readString_write s rest
  unfold writeString
  rw [List.cons_append, List.cons_append, List.append_assoc, List.singleton_append]
  unfold readValue
  rw [if_pos rfl, hread]

/-- An array is read by reading its items one level further down. -/
theorem readValue_array {xs : List Json} (ht : skipSpace t = t)
    (h : readItems fuel depth t true = .ok (xs, rest)) :
    readValue (fuel + 1) (depth + 1) (.scalar '[' :: t) = .ok (.arr xs, rest) := by
  unfold readValue
  rw [if_neg (by decide), if_pos rfl]
  dsimp only
  rw [ht, h]

/-- An object is read by reading its members one level further down and collecting them. -/
theorem readValue_object {ms : List (Text × Json)} (ht : skipSpace t = t)
    (h : readMembers fuel depth t true = .ok (ms, rest)) :
    readValue (fuel + 1) (depth + 1) (.scalar '\x7b' :: t) = .ok (.obj (collect ms), rest) := by
  unfold readValue
  rw [if_neg (by decide), if_neg (by decide), if_pos rfl]
  dsimp only
  rw [ht, h]

/-- An item is read, and what stands behind it decides how the array goes on. -/
theorem readItems_item {start : Bool} (ht : Opens t) {d : CodePoint} (hd : isSpace d = false)
    (h : readValue fuel depth t = .ok (v, d :: rest)) :
    readItems (fuel + 1) depth t start
      = if d = .scalar ']' then .ok ([v], rest)
        else if d = .scalar ',' then
          match readItems fuel depth (skipSpace rest) false with
          | .ok (vs, rest) => .ok (v :: vs, rest)
          | .error e => .error e
        else .error .malformed := by
  have hend := skipSpace_cons_of_not_isSpace hd rest
  obtain ⟨c, w, rfl, -, hclose⟩ := ht
  rw [readItems, if_neg fun hc => hclose hc.1, h]
  dsimp only
  generalize skipSpace (d :: rest) = u at hend ⊢
  subst hend
  rfl

/-- A member is read, and what stands behind its value decides how the object goes on. -/
theorem readMembers_member {start : Bool} (k : Text) (ht : Opens t) {d : CodePoint}
    (hd : isSpace d = false) (h : readValue fuel depth t = .ok (v, d :: rest)) :
    readMembers (fuel + 1) depth (writeString k ++ .scalar ':' :: .scalar ' ' :: t) start
      = if d = .scalar '\x7d' then .ok ([(k, v)], rest)
        else if d = .scalar ',' then
          match readMembers fuel depth (skipSpace rest) false with
          | .ok (ms, rest) => .ok ((k, v) :: ms, rest)
          | .error e => .error e
        else .error .malformed := by
  have hname := readString_write k (.scalar ':' :: .scalar ' ' :: t)
  have hcolon : skipSpace (.scalar ':' :: .scalar ' ' :: t) = .scalar ':' :: .scalar ' ' :: t := rfl
  have hspace := ht.skipSpace_cons
  have hend := skipSpace_cons_of_not_isSpace hd rest
  unfold writeString
  rw [List.cons_append, List.cons_append, List.append_assoc, List.singleton_append]
  -- the name, the colon, the value, and then what stands behind it
  rw [readMembers, if_neg fun hc => absurd hc.1 (by decide), if_pos rfl, hname]
  dsimp only
  rw [hcolon]
  dsimp only
  rw [if_pos rfl, hspace, h]
  dsimp only
  generalize skipSpace (d :: rest) = u at hend ⊢
  subst hend
  rfl

/-! ## Reading undoes writing -/

mutual

/-- **A written value is read back**, up to what follows it. -/
theorem readValue_write {v : Json} (hv : v.isPlain = true) {room depth fuel : Nat}
    (hroom : v.overrun? room = none) (hdepth : room ≤ 2 * depth + 1)
    (hfuel : (write v).length ≤ fuel) {rest : Text} (hrest : Delimited rest) :
    readValue fuel depth (write v ++ rest) = .ok (v, rest) := by
  have hpositive : fuel ≠ 0 := by
    obtain ⟨c, u, hwrite, -⟩ := opens_write hv
    rw [hwrite, List.length_cons] at hfuel
    omega
  obtain ⟨fuel, rfl⟩ := Nat.exists_eq_succ_of_ne_zero hpositive
  -- each step of fuel is paid for by a code point, each level of depth by two of room
  cases v with
  | null => exact readValue_of_readScalar (by decide) (by decide) (by decide) rfl
  | bool b =>
    cases b with
    | false => exact readValue_of_readScalar (by decide) (by decide) (by decide) rfl
    | true => exact readValue_of_readScalar (by decide) (by decide) (by decide) rfl
  | int i =>
    have hread := readScalar_ofInt (i := i) (of_decide_eq_true hv) hrest
    show readValue (fuel + 1) depth (Text.ofInt i ++ rest) = _
    obtain ⟨c, u, hwrite, hne⟩ := ofInt_eq_cons i
    rw [hwrite, List.cons_append] at hread ⊢
    exact readValue_of_readScalar (hne _ (by decide) (by decide)) (hne _ (by decide) (by decide))
      (hne _ (by decide) (by decide)) hread
  | num x => cases hv
  | str t => exact readValue_string t
  | arr xs =>
    obtain ⟨hsmall, hitems⟩ := overrun?_arr_eq_none_iff.mp hroom
    obtain ⟨depth, rfl⟩ : ∃ d, depth = d + 1 := ⟨depth - 1, by omega⟩
    have hlength : (writeItems xs).length + 2 ≤ fuel + 1 := by
      rw [write, List.length_append, List.length_cons] at hfuel
      exact hfuel
    rw [write, List.cons_append, List.cons_append, List.append_assoc, List.singleton_append]
    exact readValue_array (skipSpace_writeItems (isPlain_arr.mp hv) rest)
      (readItems_write (isPlain_arr.mp hv) hitems (by omega) (by omega) (Or.inr rfl) rest)
  | obj ms =>
    obtain ⟨hnames, hmembers⟩ := isPlain_obj.mp hv
    obtain ⟨hsmall, hfits⟩ := overrun?_obj_eq_none_iff.mp hroom
    obtain ⟨depth, rfl⟩ : ∃ d, depth = d + 1 := ⟨depth - 1, by omega⟩
    have hlength : (writeMembers ms).length + 2 ≤ fuel + 1 := by
      rw [write, List.length_append, List.length_cons] at hfuel
      exact hfuel
    rw [write, List.cons_append, List.cons_append, List.append_assoc, List.singleton_append]
    refine (readValue_object (skipSpace_writeMembers ms rest)
      (readMembers_write hmembers hfits (by omega) (by omega) (Or.inr rfl) rest)).trans ?_
    rw [collect_of_nodup hnames]

/-- The items of an array are read back up to the closing bracket. -/
theorem readItems_write {xs : List Json} (hxs : allItems plainHead xs = true)
    {room depth fuel : Nat} (hroom : overrunItems? room xs = none) (hdepth : room ≤ 2 * depth + 1)
    (hfuel : (writeItems xs).length < fuel) {start : Bool} (hstart : xs ≠ [] ∨ start = true)
    (rest : Text) :
    readItems fuel depth (writeItems xs ++ .scalar ']' :: rest) start = .ok (xs, rest) := by
  obtain ⟨fuel, rfl⟩ := Nat.exists_eq_succ_of_ne_zero (Nat.ne_zero_of_lt hfuel)
  match xs with
  | [] =>
    obtain rfl : start = true := hstart.resolve_left fun h => h rfl
    rfl
  -- the last item is followed by the bracket
  | [v] =>
    obtain ⟨hv, -⟩ := allItems_cons.mp hxs
    obtain ⟨hfits, -⟩ := overrunItems?_cons.mp hroom
    have hlength : (write v).length < fuel + 1 := hfuel
    have hread := readValue_write hv hfits hdepth (Nat.le_of_lt_succ hlength)
      (delimited_bracket rest)
    rw [writeItems, readItems_item ((opens_write hv).append _) (by decide) hread, if_pos rfl]
  -- any other by a comma, a space and the items that are left
  | v :: w :: vs =>
    obtain ⟨hv, hvs⟩ := allItems_cons.mp hxs
    obtain ⟨hfits, hroom⟩ := overrunItems?_cons.mp hroom
    have hlength : (write v).length + 2 + (writeItems (w :: vs)).length < fuel + 1 := by
      rw [writeItems_cons, List.length_append, List.length_append] at hfuel
      exact hfuel
    have hitems : readItems fuel depth (writeItems (w :: vs) ++ .scalar ']' :: rest) false
        = .ok (w :: vs, rest) :=
      readItems_write hvs hroom hdepth (by omega) (Or.inl (List.cons_ne_nil w vs)) rest
    have hopens := (opens_writeItems hvs).append (.scalar ']' :: rest)
    have hfirst : (write v).length ≤ fuel := by omega
    have hread := readValue_write hv hfits hdepth hfirst
      (delimited_comma (.scalar ' ' :: (writeItems (w :: vs) ++ .scalar ']' :: rest)))
    have hshift : writeItems (v :: w :: vs) ++ .scalar ']' :: rest
        = write v ++ .scalar ',' :: .scalar ' ' :: (writeItems (w :: vs) ++ .scalar ']' :: rest)
        := by
      rw [writeItems_cons, List.append_assoc, List.append_assoc]
      rfl
    rw [hshift, readItems_item ((opens_write hv).append _) (by decide) hread,
      if_neg (by decide), if_pos rfl, hopens.skipSpace_cons, hitems]

/-- The members of an object are read back up to the closing brace. -/
theorem readMembers_write {ms : List (Text × Json)} (hms : allMembers plainHead ms = true)
    {room depth fuel : Nat} (hroom : overrunMembers? room ms = none)
    (hdepth : room ≤ 2 * depth + 1) (hfuel : (writeMembers ms).length < fuel) {start : Bool}
    (hstart : ms ≠ [] ∨ start = true) (rest : Text) :
    readMembers fuel depth (writeMembers ms ++ .scalar '\x7d' :: rest) start = .ok (ms, rest) := by
  -- each round takes one unit of fuel and at least the name's two quotation marks of the text
  obtain ⟨fuel, rfl⟩ := Nat.exists_eq_succ_of_ne_zero (Nat.ne_zero_of_lt hfuel)
  match ms with
  | [] =>
    obtain rfl : start = true := hstart.resolve_left fun h => h rfl
    rfl
  -- the last member is followed by the bracket
  | [(k, v)] =>
    obtain ⟨hv, -⟩ := allMembers_cons.mp hms
    obtain ⟨-, hfits, -⟩ := overrunMembers?_cons.mp hroom
    have hlength : (writeString k).length + 2 + (write v).length < fuel + 1 := by
      rw [writeMembers, List.length_append, List.length_append] at hfuel
      exact hfuel
    have hlast : (write v).length ≤ fuel := by omega
    have hread := readValue_write hv hfits hdepth hlast (delimited_brace rest)
    have hshift : writeMembers [(k, v)] ++ .scalar '\x7d' :: rest
        = writeString k ++ .scalar ':' :: .scalar ' ' :: (write v ++ .scalar '\x7d' :: rest) := by
      rw [writeMembers, List.append_assoc, List.append_assoc]
      rfl
    rw [hshift, readMembers_member k ((opens_write hv).append _) (by decide) hread, if_pos rfl]
  -- any other is followed by a comma, a space and the rest, which is read in the next round
  | (k, v) :: m :: ms =>
    obtain ⟨hv, hms⟩ := allMembers_cons.mp hms
    obtain ⟨-, hfits, hroom⟩ := overrunMembers?_cons.mp hroom
    have hlength : (writeString k).length + 2 + (write v).length + 2
        + (writeMembers (m :: ms)).length < fuel + 1 := by
      rw [writeMembers_cons, List.length_append, List.length_append, List.length_append,
        List.length_append] at hfuel
      exact hfuel
    have hmembers : readMembers fuel depth (writeMembers (m :: ms) ++ .scalar '\x7d' :: rest) false
        = .ok (m :: ms, rest) :=
      readMembers_write hms hroom hdepth (by omega) (Or.inl (List.cons_ne_nil m ms)) rest
    have hopens := (opens_writeMembers m ms).append (.scalar '\x7d' :: rest)
    have hfirst : (write v).length ≤ fuel := by omega
    have hread := readValue_write hv hfits hdepth hfirst
      (delimited_comma (.scalar ' ' :: (writeMembers (m :: ms) ++ .scalar '\x7d' :: rest)))
    have hshift : writeMembers ((k, v) :: m :: ms) ++ .scalar '\x7d' :: rest
        = writeString k ++ .scalar ':' :: .scalar ' ' :: (write v ++ .scalar ',' :: .scalar ' '
          :: (writeMembers (m :: ms) ++ .scalar '\x7d' :: rest)) := by
      rw [writeMembers_cons, List.append_assoc, List.append_assoc, List.append_assoc,
        List.append_assoc]
      rfl
    rw [hshift, readMembers_member k ((opens_write hv).append _) (by decide) hread,
      if_neg (by decide), if_pos rfl, hopens.skipSpace_cons, hmembers]

end

/-- **Reading undoes writing.** -/
theorem read_write {v : Json} (hv : v.isPlain = true) {room depth : Nat}
    (hroom : v.overrun? room = none) (hdepth : room ≤ 2 * depth + 1) :
    read depth (write v) = .ok v := by
  have hfuel : (write v).length ≤ 2 * (write v).length + 2 := by omega
  have hvalue := readValue_write hv hroom hdepth hfuel delimited_nil
  rw [List.append_nil] at hvalue
  rw [read, (opens_write hv).skipSpace, hvalue]
  rfl

end IssuerGate.Json
