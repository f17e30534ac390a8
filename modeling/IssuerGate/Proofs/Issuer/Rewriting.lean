import IssuerGate.Issuer.Rewriting
import IssuerGate.Proofs.Issuer.File

/-!
# IssuerGate — a file is rewritten as a whole or not at all

* **`Rewriting.file_run`** — until the copy takes its place, the file is what it was, whatever has
  been written to the copy.
* **`File.file_rewrite_of_error`** — a rewriting that fails does not come that far, so it leaves the
  file as it was.
* **`File.rewrite_of_fault`** — which fault it is: that of the first record without a line, wherever
  that stands.
* **`File.rewrite_of_write`**, **`File.write_of_rewrite`** — a rewriting that does not fail leaves the
  file that holds the records.
-/

namespace IssuerGate.Issuer

namespace Rewriting

variable {room : Nat}

/-! ## Moves -/

theorem file_move {m : Move} (hm : m ≠ .replace) (w : Rewriting) :
    (w.move room m).1.file = w.file := by
  cases m with
  | start => rfl
  | line r =>
    unfold move
    dsimp only
    split <;> rfl
  | replace => exact absurd rfl hm

/-- **The file is left alone until it is replaced.** Induction on the moves: one that fails ends
the run with the file that it found. -/
theorem file_run {ms : List Move} (hms : Move.replace ∉ ms) (w : Rewriting) :
    (w.run room ms).1.file = w.file := by
  induction ms generalizing w with
  | nil => rfl
  | cons m ms ih =>
    have hm : m ≠ .replace := fun h => hms (h ▸ List.mem_cons_self)
    have hlater : Move.replace ∉ ms := fun h => hms (List.mem_cons_of_mem m h)
    have hfile : (w.move room m).1.file = w.file := file_move hm w
    -- a run ends at the first move that fails
    unfold run
    split
    · next w' h =>
      rw [h] at hfile
      exact (ih hlater w').trans hfile
    · next w' e h =>
      rw [h] at hfile
      exact hfile

/-- Moves that succeed are followed by the others. -/
theorem run_append_of_ok {first second : List Move} {w w' : Rewriting}
    (h : w.run room first = (w', .ok ())) :
    w.run room (first ++ second) = w'.run room second := by
  induction first generalizing w with
  | nil =>
    obtain rfl := (Prod.mk.inj h).1
    rfl
  | cons m first ih =>
    rw [List.cons_append, run]
    unfold run at h
    split at h
    · exact ih h
    · cases (Prod.mk.inj h).2

/-- Moves that fail are not. -/
theorem run_append_of_error {first second : List Move} {w w' : Rewriting} {e : Record.WriteFault}
    (h : w.run room first = (w', .error e)) :
    w.run room (first ++ second) = (w', .error e) := by
  induction first generalizing w with
  | nil => cases (Prod.mk.inj h).2
  | cons m first ih =>
    rw [List.cons_append, run]
    unfold run at h
    split at h
    · exact ih h
    · exact h

/-! ## Lines -/

/-- Records that have lines are written to the copy one behind the other. -/
theorem run_lines_of_ok {rs : List Record} {ls : List (List Char)}
    (h : rs.mapM (Record.lineChars room) = .ok ls) (f : File) (cs : List Char) :
    run room ⟨f, some cs⟩ (rs.map .line) = (⟨f, some (cs ++ ls.flatten)⟩, .ok ()) := by
  induction rs generalizing ls cs with
  | nil =>
    cases h
    simp [run]
  | cons r rs ih =>
    rw [List.mapM_cons] at h
    -- each line is put behind those in the copy
    cases hline : r.lineChars room with
    | error e =>
      rw [hline] at h
      cases h
    | ok l =>
      cases hls : rs.mapM (Record.lineChars room) with
      | error e =>
        rw [hline, hls] at h
        cases h
      | ok ls' =>
        rw [hline, hls] at h
        obtain rfl : l :: ls' = ls := Except.ok.inj h
        have hmove : move room ⟨f, some cs⟩ (.line r) = (⟨f, some (cs ++ l)⟩, .ok ()) := by
          unfold move
          dsimp only
          rw [hline]
          rfl
        rw [List.map_cons, run, hmove, List.flatten_cons, ← List.append_assoc]
        exact ih hls (cs ++ l)

/-- A record without a line ends the run. -/
theorem run_line_of_error {r : Record} {e : Record.WriteFault} (h : r.lineChars room = .error e)
    (w : Rewriting) (ms : List Move) : w.run room (.line r :: ms) = (w, .error e) := by
  have hmove : w.move room (.line r) = (w, .error e) := by
    unfold move
    dsimp only
    rw [h]
  rw [run, hmove]

end Rewriting

/-! ## Files -/

namespace File

open Rewriting

variable {b : Bounds} {rs : List Record} {e : Record.WriteFault}

theorem replace_not_mem (rs : List Record) : Move.replace ∉ Move.start :: rs.map .line := by
  simp

/-- **A rewriting that fails leaves the file as it was.** The last move cannot fail, and all others
leave the file alone. -/
theorem file_rewrite_of_error {f : File} (h : (f.rewrite b rs).2 = .error e) :
    (f.rewrite b rs).1 = f := by
  unfold rewrite moves at h ⊢
  dsimp only at h ⊢
  -- only the moves before the last can fail, and they write the copy
  cases hrun : Rewriting.run b.room ⟨f, none⟩ (.start :: rs.map .line) with
  | mk w outcome =>
    cases outcome with
    | ok u =>
      rw [run_append_of_ok hrun] at h
      exfalso
      unfold run move at h
      cases hcopy : w.copy with
      | some cs => simp [hcopy, run] at h
      | none => simp [hcopy, run] at h
    | error e' =>
      have hfile : (Rewriting.run b.room ⟨f, none⟩ (.start :: rs.map .line)).1.file = f :=
        file_run (replace_not_mem rs) ⟨f, none⟩
      rw [hrun] at hfile
      rw [run_append_of_error hrun]
      exact hfile

/-- Records that can all be written are what the file holds then. -/
theorem rewrite_of_write {f g : File} (h : f.write b rs = .ok g) :
    f.rewrite b rs = (g, .ok ()) := by
  unfold write contentOf at h
  cases hls : rs.mapM (Record.lineChars b.room) with
  | error e =>
    rw [hls] at h
    cases h
  | ok ls =>
    rw [hls] at h
    obtain rfl := Except.ok.inj h
    have hlines : Rewriting.run b.room ⟨f, none⟩ (.start :: rs.map .line)
        = (⟨f, some ls.flatten⟩, .ok ()) := run_lines_of_ok hls f []
    unfold rewrite moves
    rw [run_append_of_ok hlines]
    rfl

/-- **The first record without a line says why a rewriting fails**, wherever it stands; the file is
as it was. -/
theorem rewrite_of_fault {before after : List Record} {r : Record} {ls : List (List Char)}
    (hbefore : before.mapM (Record.lineChars b.room) = .ok ls)
    (h : r.lineChars b.room = .error e) (f : File) :
    f.rewrite b (before ++ r :: after) = (f, .error e) := by
  have hlines : Rewriting.run b.room ⟨f, none⟩ (.start :: before.map .line)
      = (⟨f, some ls.flatten⟩, .ok ()) := run_lines_of_ok hbefore f []
  have hmoves : moves (before ++ r :: after) = (.start :: before.map .line)
      ++ (.line r :: (after.map .line ++ [.replace])) := by
    unfold moves
    rw [List.map_append, List.map_cons, List.cons_append, List.cons_append, List.append_assoc]
    rfl
  unfold rewrite
  rw [hmoves, run_append_of_ok hlines, run_line_of_error h]

/-- Records that cannot all be written have a first one without a line. -/
theorem exists_of_mapM_error (h : rs.mapM (Record.lineChars b.room) = .error e) :
    ∃ before r after ls, rs = before ++ r :: after
      ∧ before.mapM (Record.lineChars b.room) = .ok ls ∧ r.lineChars b.room = .error e := by
  induction rs with
  | nil => cases h
  | cons r rs ih =>
    -- the first record that cannot be written, or the first behind this one
    cases hline : r.lineChars b.room with
    | error e' =>
      rw [List.mapM_cons, hline] at h
      obtain rfl : e' = e := Except.error.inj h
      exact ⟨[], r, rs, [], rfl, rfl, hline⟩
    | ok l =>
      rw [mapM_lineChars_cons hline] at h
      cases hls : rs.mapM (Record.lineChars b.room) with
      | ok ls =>
        rw [hls] at h
        cases h
      | error e' =>
        rw [hls] at h
        obtain rfl : e' = e := Except.error.inj h
        obtain ⟨before, q, after, ls, hrs, hbefore, hq⟩ := ih hls
        refine ⟨r :: before, q, after, l :: ls, ?_, ?_, hq⟩
        · rw [hrs, List.cons_append]
        · rw [mapM_lineChars_cons hline, hbefore]
          rfl

/-- A rewriting that does not fail leaves the file that holds the records. -/
theorem write_of_rewrite {f g : File} (h : f.rewrite b rs = (g, .ok ())) :
    f.write b rs = .ok g := by
  cases hls : rs.mapM (Record.lineChars b.room) with
  | ok ls =>
    have hwrite := write_of_mapM hls f
    rw [rewrite_of_write hwrite] at h
    rw [hwrite, (Prod.mk.inj h).1]
  | error e =>
    obtain ⟨before, r, after, ls, rfl, hbefore, hr⟩ := exists_of_mapM_error hls
    rw [rewrite_of_fault hbefore hr] at h
    cases (Prod.mk.inj h).2

/-- **A rewriting fails if and only if one of the records has no line.** -/
theorem exists_rewrite_error_iff (f : File) :
    (∃ e, (f.rewrite b rs).2 = .error e) ↔ ∃ r ∈ rs, ∃ e, r.lineChars b.room = .error e := by
  -- the rewriting stops at a record that cannot be written, and only there
  cases hls : rs.mapM (Record.lineChars b.room) with
  | ok ls =>
    rw [rewrite_of_write (write_of_mapM hls f)]
    constructor
    · rintro ⟨e, he⟩
      cases he
    · rintro ⟨r, hr, e, he⟩
      obtain ⟨l, hl⟩ := exists_lineChars_of_mapM hls r hr
      rw [hl] at he
      cases he
  | error e =>
    obtain ⟨before, r, after, ls, rfl, hbefore, hr⟩ := exists_of_mapM_error hls
    rw [rewrite_of_fault hbefore hr]
    exact iff_of_true ⟨e, rfl⟩ ⟨r, by simp, e, hr⟩

end File

end IssuerGate.Issuer
