import TextCursor.Pattern.Expr.Parser
import TextCursor.Pattern.Search

/-!
# Patterns

A pattern is what the cursor is asked to match: the program of an expression that was read from
a text. Matching depends on the pattern and on the text ahead alone.
-/

namespace TextCursor

/-- A pattern, ready to be matched. -/
structure Pattern where
  program : Pattern.Program

namespace Pattern

/-- The pattern that a text describes. -/
def compile (source : String) : Except SyntaxError Pattern := do
  let e ← Expr.parse source.toList
  return ⟨e.compile⟩

/-- The text from the start up to the end of the match, if there is a match: one at the start when
anchored, and the first one anywhere otherwise. -/
def matched? (p : Pattern) (anchored : Bool) (text : String) : Option String :=
  (p.program.matchLength? anchored text.toList).map fun n => String.ofList (text.toList.take n)

/-- What is matched begins the text. -/
theorem matched?_append {p : Pattern} {anchored : Bool} {text m : String}
    (h : p.matched? anchored text = some m) : ∃ rest, text = m ++ rest := by
  unfold matched? at h
  obtain ⟨n, _, rfl⟩ := Option.map_eq_some_iff.1 h
  refine ⟨String.ofList (text.toList.drop n), ?_⟩
  rw [← String.ofList_append, List.take_append_drop, String.ofList_toList]

end Pattern

end TextCursor
