import Mathlib.Data.List.DropRight
import TextCursor.Text.Blank

/-!
# Trimming takes off blank characters at the ends

Trimming parts a text into blank characters, what it leaves, and blank characters again
(`exists_blank_around`), and blank characters that are added at either end make no difference to
what it leaves (`trim_append_left`, `trim_append_right`).
-/

namespace TextCursor.Text

theorem trimEnd_eq_rdropWhile (cs : List Char) : trimEnd cs = cs.rdropWhile isBlank := rfl

/-- A text is what trimming leaves of it, with blank characters before and behind. -/
theorem exists_blank_around (cs : List Char) :
    ∃ before behind, (∀ c ∈ before, isBlank c = true) ∧ (∀ c ∈ behind, isBlank c = true) ∧
      cs = before ++ (trim cs ++ behind) := by
  refine ⟨cs.takeWhile isBlank, (trimStart cs).rtakeWhile isBlank, ?_, ?_, ?_⟩
  · intro c mem
    exact List.mem_takeWhile_imp mem
  · intro c mem
    exact List.mem_rtakeWhile_imp mem
  · rw [trim, trimEnd_eq_rdropWhile, List.rdropWhile_append_rtakeWhile, trimStart,
      List.takeWhile_append_dropWhile]

theorem length_trim_le (cs : List Char) : (trim cs).length ≤ cs.length := by
  obtain ⟨before, behind, -, -, whole⟩ := exists_blank_around cs
  have total := congrArg List.length whole
  simp only [List.length_append] at total
  omega

variable {blank : List Char} (h : ∀ c ∈ blank, isBlank c = true)

include h

theorem trim_append_left (cs : List Char) : trim (blank ++ cs) = trim cs := by
  rw [trim, trimStart, List.dropWhile_append_of_pos h, trim, trimStart]

theorem trim_append_right (cs : List Char) : trim (cs ++ blank) = trim cs := by
  have reversed : ∀ c ∈ blank.reverse, isBlank c = true := by
    intro c mem
    exact h c (List.mem_reverse.1 mem)
  have atEnd (start : List Char) : trimEnd (start ++ blank) = trimEnd start := by
    rw [trimEnd, List.reverse_append, trimStart, List.dropWhile_append_of_pos reversed, trimEnd,
      trimStart]
  by_cases nothing : trimStart cs = []
  · -- a blank text stays blank, and nothing is left of it
    have all : allBlank (cs ++ blank) = true := by
      rw [trimStart_eq_nil_iff] at nothing
      simp only [allBlank, List.all_append, Bool.and_eq_true]
      exact ⟨nothing, List.all_eq_true.2 h⟩
    rw [trim_eq_nil_iff.2 all, trim_eq_nil_iff.2 (trimStart_eq_nil_iff.1 nothing)]
  · have start : trimStart (cs ++ blank) = trimStart cs ++ blank := by
      unfold trimStart at nothing ⊢
      rw [List.dropWhile_append, if_neg (mt List.isEmpty_iff.1 nothing)]
    rw [trim, start, atEnd, trim]

end TextCursor.Text
