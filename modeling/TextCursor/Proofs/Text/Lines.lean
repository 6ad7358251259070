import Mathlib.Data.String.Basic
import TextCursor.Proofs.Text.Numeral
import TextCursor.Text.Quoted

/-!
# Lines of a text

A text lies on one line where it holds no line feed (`OneLine`). Numerals do, and so does what stands
between quotes, whatever is quoted (`oneLine_quoted`).

A text that has been put together from such lines, each with its line feed, falls into those lines
again (`lines_join`).
-/

namespace TextCursor.Text

/-! ## Texts on one line -/

/-- A text without line feeds. -/
def OneLine (s : String) : Prop :=
  '\n' ∉ s.toList

instance (s : String) : Decidable (OneLine s) :=
  inferInstanceAs (Decidable ('\n' ∉ s.toList))

theorem oneLine_append {s t : String} : OneLine (s ++ t) ↔ OneLine s ∧ OneLine t := by
  rw [OneLine, String.toList_append, List.mem_append, not_or]
  rfl

theorem OneLine.append {s t : String} (h : OneLine s) (h' : OneLine t) : OneLine (s ++ t) :=
  oneLine_append.2 ⟨h, h'⟩

theorem oneLine_ofList {cs : List Char} : OneLine (String.ofList cs) ↔ '\n' ∉ cs := by
  rw [OneLine, String.toList_ofList]

/-- A text whose characters are all from a text on one line is on one line too. -/
theorem OneLine.of_subset {s : String} (h : OneLine s) {cs : List Char} (among : cs ⊆ s.toList) :
    OneLine (String.ofList cs) := by
  rw [oneLine_ofList]
  intro mem
  exact h (among mem)

theorem OneLine.singleton {s : String} (h : OneLine s) {c : Char} (mem : c ∈ s.toList) :
    OneLine (String.singleton c) := by
  rw [OneLine, String.toList_singleton, List.mem_singleton]
  rintro rfl
  exact h mem

theorem oneLine_toString_nat (n : Nat) : OneLine (toString n) := by
  intro mem
  cases isDigit_of_mem_toString mem

theorem oneLine_toString_int (i : Int) : OneLine (toString i) := by
  cases i with
  | ofNat n => exact oneLine_toString_nat n
  | negSucc n => exact OneLine.append (show OneLine "-" by decide) (oneLine_toString_nat (n + 1))

theorem lineFeed_not_mem_toDigits (n : Nat) : '\n' ∉ Nat.toDigits 16 n := by
  have digit : ∀ d < 16, '\n' ≠ Nat.digitChar d := by decide
  -- the last digit comes from the remainder, the others from the quotient
  induction n using Nat.strongRecOn with
  | ind n ih =>
    rw [Nat.toDigits_eq_if (by decide)]
    split
    · next small =>
      rw [List.mem_singleton]
      exact digit n small
    · next large =>
      rw [List.mem_append, List.mem_singleton, not_or]
      exact ⟨ih (n / 16) (by omega), digit (n % 16) (by omega)⟩

/-- Between quotes a line feed is written as an escape, and no escape holds one. -/
theorem lineFeed_not_mem_quotedChar (c : Char) : '\n' ∉ quotedChar c := by
  unfold quotedChar
  split_ifs with null tab return_ feed backslash quote shows
  iterate 6
    · decide
  · rw [List.mem_singleton]
    exact Ne.symm feed
  · simp [codeEscape, lineFeed_not_mem_toDigits]

/-- What stands between quotes lies on one line, whatever is quoted. -/
theorem oneLine_quoted (s : String) : OneLine (quoted s) := by
  rw [quoted, oneLine_ofList]
  have inside : '\n' ∉ s.toList.flatMap quotedChar := by
    intro mem
    obtain ⟨c, -, mem⟩ := List.mem_flatMap.1 mem
    exact lineFeed_not_mem_quotedChar c mem
  simp [inside]

/-! ## Texts of several lines -/

/-- The lines of a text. Each is ended by a line feed, and what is behind the last is no line. -/
def lines (s : String) : List String :=
  (s.toList.splitOn '\n').dropLast.map String.ofList

example : lines "a\n\nb\nc" = ["a", "", "b"] := by decide +kernel

/-- Lines with their line feeds are the lines and an empty piece with line feeds between. -/
theorem toList_join_eq_intercalate (ls : List String) :
    (String.join (ls.map (· ++ "\n"))).toList =
      ['\n'].intercalate (ls.map String.toList ++ [[]]) := by
  induction ls with
  | nil => simp
  | cons l ls ih =>
    have more : ls.map String.toList ++ [[]] ≠ [] := by simp
    rw [List.map_cons, String.join_cons, String.toList_append, ih, List.map_cons, List.cons_append,
      List.intercalate_cons_of_ne_nil more, String.toList_append]
    rfl

theorem lines_join {ls : List String} (h : ∀ l ∈ ls, OneLine l) :
    lines (String.join (ls.map (· ++ "\n"))) = ls := by
  have without : ∀ l ∈ ls.map String.toList ++ [[]], '\n' ∉ l := by
    intro l mem
    rcases List.mem_append.1 mem with mem | mem
    · obtain ⟨s, among, rfl⟩ := List.mem_map.1 mem
      exact h s among
    · rw [List.mem_singleton.1 mem]
      exact List.not_mem_nil
  rw [lines, toList_join_eq_intercalate, List.splitOn_intercalate '\n' without (by simp),
    List.dropLast_concat, List.map_map]
  exact List.map_id'' (fun s => String.ofList_toList) ls

end TextCursor.Text
