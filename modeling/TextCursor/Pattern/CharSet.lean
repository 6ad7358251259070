import TextCursor.Unicode.Age
import TextCursor.Unicode.CaseFolding
import TextCursor.Unicode.SentenceBreak
import TextCursor.Unicode.Word

/-!
# Sets of characters

What a pattern may ask of one character, kept as the expression that it was written as: ranges,
Unicode properties, and the operations of bracketed classes. `contains` decides membership; the
lemmas beside it say what each operation means for it.
-/

namespace TextCursor.Pattern

open TextCursor.Unicode

/-- A set of characters. -/
inductive CharSet where
  | empty
  | any
  | range (first last : Char)
  | blank
  | decimal
  | word
  | category (ks : List Category)
  | property (p : Property)
  | script (s : Script)
  | scriptExtensions (s : Script)
  | age (versions : List Age)
  | graphemeBreak (k : GraphemeBreak)
  | wordBreak (k : WordBreak)
  | sentenceBreak (k : SentenceBreak)
  | union (a b : CharSet)
  | inter (a b : CharSet)
  | diff (a b : CharSet)
  | symmDiff (a b : CharSet)
  | compl (a : CharSet)
  /-- The set with all case variants of its members. -/
  | foldCase (a : CharSet)
  /-- The set with the other case of each letter of ASCII in it. -/
  | foldAsciiCase (a : CharSet)

namespace CharSet

/-- The other case of a letter of ASCII; any other character itself. -/
def swapAsciiCase (c : Char) : Char :=
  if c.isUpper then c.toLower else c.toUpper

/-- Whether the set holds the character. -/
def contains : CharSet → Char → Bool
  | .empty, _ => false
  | .any, _ => true
  | .range first last, c => first ≤ c && c ≤ last
  | .blank, c => Text.isBlank c
  | .decimal, c => isDecimalDigit c
  | .word, c => isWordChar c
  | .category ks, c => Property.inCategory ks c
  | .property p, c => p.contains c
  | .script s, c => s.contains c
  | .scriptExtensions s, c => s.extensionsContain c
  | .age versions, c => versions.any (·.added.contains c)
  | .graphemeBreak k, c => k.contains c
  | .wordBreak k, c => k.contains c
  | .sentenceBreak k, c => k.contains c
  | .union a b, c => a.contains c || b.contains c
  | .inter a b, c => a.contains c && b.contains c
  | .diff a b, c => a.contains c && !b.contains c
  | .symmDiff a b, c => a.contains c != b.contains c
  | .compl a, c => !a.contains c
  | .foldCase a, c => a.contains c || (caseVariants c).any fun d => a.contains d
  | .foldAsciiCase a, c => a.contains c || a.contains (swapAsciiCase c)

/-- The set of one character. -/
def single (c : Char) : CharSet :=
  .range c c

/-- The union of a list of sets. -/
def unions (sets : List CharSet) : CharSet :=
  sets.foldr .union .empty

/-- The union of ranges. -/
def ranges (rs : List (Char × Char)) : CharSet :=
  unions (rs.map fun r => .range r.1 r.2)

@[simp]
theorem contains_single (c d : Char) : (single c).contains d = decide (d = c) := by
  simp only [single, contains, Char.le_def, Bool.and_eq_decide, decide_eq_true_eq]
  refine decide_eq_decide.mpr ⟨fun h => ?_, fun h => by simp [h]⟩
  exact Char.ext (UInt32.le_antisymm h.2 h.1)

theorem contains_unions (sets : List CharSet) (c : Char) :
    (unions sets).contains c = sets.any (·.contains c) := by
  induction sets with
  | nil => rfl
  | cons s sets ih => simp [unions, contains, ← ih]

end CharSet

end TextCursor.Pattern
