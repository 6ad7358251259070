import Mathlib.Data.List.Destutter
import Mathlib.Data.List.DropRight
import TextCursor.Proofs.Console.Refinement

/-!
# The lines that are saved

A history that starts empty keeps the latest of the lines that were entered, without the blank ones
and without repeats (`entries_foldl_enter`), and its file gives them back (`body_of_toFile?`). So
`saved_history` says of every input which lines are in the file after a run.

That lines are dropped one at a time makes no difference: the oldest goes when one more is kept, and
a repeat is told by the latest, which is never dropped (`entries_add`).
-/

namespace TextCursor

namespace History

/-! ## Repeats -/

/-- One more element of a list without repeats: it is left out where it repeats the last one. -/
theorem destutter_append_singleton {α : Type} [DecidableEq α] (l : List α) (a : α) :
    (l ++ [a]).destutter (· ≠ ·) =
      if (l.destutter (· ≠ ·)).getLast? = some a then l.destutter (· ≠ ·)
      else l.destutter (· ≠ ·) ++ [a] := by
  cases l with
  | nil => rfl
  | cons first l =>
    rw [List.cons_append, List.destutter_cons', List.destutter_cons']
    induction l generalizing first with
    | nil =>
      by_cases same : first = a
      · simp [same]
      · simp [same]
    | cons b l ih =>
      by_cases same : first = b
      · have repeats : ¬ first ≠ b := not_not.2 same
        rw [List.cons_append, List.destutter'_cons_neg _ repeats,
          List.destutter'_cons_neg _ repeats]
        exact ih first
      · rw [List.cons_append, List.destutter'_cons_pos _ same, List.destutter'_cons_pos _ same, ih b]
        -- the last of the longer list is the last of the shorter, for that is not empty
        have last : (first :: l.destutter' (· ≠ ·) b).getLast? = (l.destutter' (· ≠ ·) b).getLast? :=
          List.getLast?_cons_of_ne_nil (l.destutter'_ne_nil (· ≠ ·))
        rw [last]
        split
        · rfl
        · rfl

/-! ## The latest lines -/

theorem getLast?_rtake {α : Type} (l : List α) {n : Nat} (h : 0 < n) :
    (l.rtake n).getLast? = l.getLast? := by
  rw [List.rtake, List.getLast?_drop]
  split
  · next short =>
    have nothing : l = [] := List.length_eq_zero_iff.1 (by omega)
    rw [nothing]
    rfl
  · rfl

/-- Of the latest elements and one more, the latest are those of the whole list and that one. -/
theorem rtake_append_singleton {α : Type} (l : List α) (a : α) (n : Nat) :
    (l.rtake n ++ [a]).rtake n = (l ++ [a]).rtake n := by
  cases n with
  | zero => rw [List.rtake_zero, List.rtake_zero]
  | succ n =>
    rw [List.rtake_concat_succ, List.rtake_concat_succ, List.rtake, List.rtake, List.rtake,
      List.drop_drop, List.length_drop]
    congr 2
    omega

/-- One more line. The history holds the latest of a longer list, which grows by the line unless that
repeats its last one. -/
theorem entries_add {h : History} {all : List String} (holds : h.entries = all.rtake limit)
    (line : String) :
    (h.add line).entries =
      (if all.getLast? = some line then all else all ++ [line]).rtake limit := by
  have last : h.entries.getLast? = all.getLast? := by
    rw [holds, getLast?_rtake all (by decide)]
  rw [add, last]
  split
  · exact holds
  · show (h.entries ++ [line]).rtake limit = _
    rw [holds, rtake_append_singleton]

/-- A history that starts empty holds the latest of the lines without repeats. -/
theorem entries_foldl_add (lines : List String) :
    (lines.foldl add empty).entries = (lines.destutter (· ≠ ·)).rtake limit := by
  -- lines are added at the end, so the induction goes from there
  induction lines using List.reverseRecOn with
  | nil => rfl
  | append_singleton lines line ih =>
    rw [List.foldl_append, destutter_append_singleton]
    exact entries_add ih line

/-- To enter lines is to add those that are not blank. -/
theorem foldl_enter (lines : List String) (h : History) :
    lines.foldl enter h = (lines.filter fun line => !Text.allBlank line.toList).foldl add h := by
  rw [List.foldl_filter]
  congr 1
  funext h line
  rw [enter]
  cases Text.allBlank line.toList with
  | true => rfl
  | false => rfl

theorem entries_foldl_enter (lines : List String) :
    (lines.foldl enter empty).entries =
      ((lines.filter fun line => !Text.allBlank line.toList).destutter (· ≠ ·)).rtake limit := by
  rw [foldl_enter, entries_foldl_add]

/-! ## The file -/

/-- Undoes the escapes of a line in a file. -/
def readEntry (line : String) : String :=
  String.ofList (readChars line.toList)

theorem readEntry_writeEntry (line : String) : readEntry (writeEntry line) = line := by
  rw [readEntry, writeEntry, String.toList_ofList, readChars_flatMap_writeChar, String.ofList_toList]

theorem oneLine_writeEntry (line : String) : Text.OneLine (writeEntry line) := by
  rw [writeEntry, Text.oneLine_ofList]
  intro mem
  obtain ⟨c, -, mem⟩ := List.mem_flatMap.1 mem
  rw [writeChar] at mem
  split at mem
  · exact absurd mem (by decide)
  · split at mem
    · exact absurd mem (by decide)
    · next other => exact other (List.mem_singleton.1 mem).symm

/-- There is a file unless there is nothing to keep. -/
theorem toFile?_eq_none_iff {h : History} : h.toFile? = none ↔ h.entries = [] := by
  rw [toFile?, ← List.isEmpty_iff]
  cases h.entries.isEmpty with
  | true => exact ⟨fun _ => rfl, fun _ => rfl⟩
  | false => simp

/-- A file is its header and a line for each that is kept. -/
theorem hasLines_of_toFile? {h : History} {file : String} (some_file : h.toFile? = some file) :
    Console.HasLines file (header :: h.entries.map writeEntry) := by
  rw [toFile?] at some_file
  split at some_file
  · cases some_file
  · cases some_file
    have joined : header ++ "\n" ++ String.join (h.entries.map fun line => writeEntry line ++ "\n")
        = Console.unlines (header :: h.entries.map writeEntry) := by
      rw [Console.unlines, List.map_cons, String.join_cons, List.map_map]
      rfl
    rw [joined]
    refine Console.hasLines_unlines fun l mem => ?_
    rcases List.mem_cons.1 mem with rfl | mem
    · decide
    · obtain ⟨line, _, rfl⟩ := List.mem_map.1 mem
      exact oneLine_writeEntry line

/-- What a file holds below its header gives the lines back. -/
theorem body_of_toFile? {h : History} {file : String} (some_file : h.toFile? = some file) :
    ∃ body, Console.HasLines file (header :: body) ∧ body.map readEntry = h.entries := by
  refine ⟨_, hasLines_of_toFile? some_file, ?_⟩
  rw [List.map_map]
  exact List.map_id'' readEntry_writeEntry h.entries

end History

namespace Console

/-- The lines that are kept of those that were read, however many there are: those that are not read
as nothing, and of each run of equal ones the first. -/
def keptLines (read : List String) : List String :=
  (read.filter fun line => (Command.parse line).result ≠ .ok none).destutter (· ≠ ·)

theorem keptLines_eq (read : List String) :
    keptLines read = (read.filter fun line => !Text.allBlank line.toList).destutter (· ≠ ·) := by
  rw [keptLines]
  congr 2
  funext line
  rw [Bool.eq_iff_iff, decide_eq_true_iff, ne_eq, Command.parse_eq_none_iff]
  cases Text.allBlank line.toList with
  | true => decide
  | false => decide

example : keptLines ["a", " ", "a", "nope", "nope", "a"] = ["a", "nope", "a"] := by decide +kernel

/-- **What is saved.** After a run on any input the history holds the latest hundred of the lines that
were read, the last one too if it exits, without those that hold no command and without repeats. There
is no file if there are none, and else its lines below the header give them back. A line holds no
command where there is nothing left of it between the blank characters at its ends. -/
theorem saved_history (settings : Settings) (input : List UInt8) :
    ∃ before, StopsAfter .new (linesOf Piece.line? input) before ∧
      let kept := keptLines (linesRead (linesOf Piece.line? input) before)
      (runLines .new .empty (linesOf Piece.line? input)).history.entries = kept.rtake 100 ∧
      ((run settings input).history = none ↔ kept = []) ∧
      (∀ file, (run settings input).history = some file →
        ∃ body, HasLines file ("#V2" :: body) ∧ body.map History.readEntry = kept.rtake 100) ∧
      ∀ line : String, Text.trim line.toList = [] ↔ (Command.parse line).result = .ok none := by
  obtain ⟨before, stops⟩ := exists_stopsAfter .new (linesOf Piece.line? input)
  have entries : (runLines .new .empty (linesOf Piece.line? input)).history.entries =
      (keptLines (linesRead (linesOf Piece.line? input) before)).rtake 100 := by
    rw [stops.runLines_eq, keptLines_eq]
    exact History.entries_foldl_enter _
  refine ⟨before, stops, entries, ?_, ?_, ?_⟩
  · have none_iff := History.toFile?_eq_none_iff
      (h := (runLines .new .empty (linesOf Piece.line? input)).history)
    rw [entries] at none_iff
    refine none_iff.trans ?_
    -- of a list that is not empty, the latest hundred are not none
    rw [List.rtake, List.drop_eq_nil_iff]
    constructor
    · intro long
      exact List.length_eq_zero_iff.1 (by omega)
    · intro nothing
      rw [nothing]
      exact Nat.le_refl 0
  · intro file saved
    obtain ⟨body, lines, read⟩ := History.body_of_toFile? saved
    exact ⟨body, lines, read.trans entries⟩
  · intro line
    rw [Text.trim_eq_nil_iff, Command.parse_eq_none_iff]

end Console

end TextCursor
