/-!
# Blank characters

The characters with the Unicode property `White_Space`, and texts freed of them at the ends.
-/

namespace TextCursor.Text

/-- Whether the character has the property `White_Space`. -/
def isBlank (c : Char) : Bool :=
  let n := c.toNat
  n == 0x20 || (0x9 ≤ n && n ≤ 0xD) || n == 0x85 || n == 0xA0 || n == 0x1680
    || (0x2000 ≤ n && n ≤ 0x200A) || n == 0x2028 || n == 0x2029 || n == 0x202F || n == 0x205F
    || n == 0x3000

/-- The characters from the first that is not blank on. -/
def trimStart (cs : List Char) : List Char :=
  cs.dropWhile isBlank

/-- The characters up to the last that is not blank. -/
def trimEnd (cs : List Char) : List Char :=
  (trimStart cs.reverse).reverse

/-- The characters from the first to the last that is not blank. -/
def trim (cs : List Char) : List Char :=
  trimEnd (trimStart cs)

/-- Whether all characters are blank. -/
def allBlank (cs : List Char) : Bool :=
  cs.all isBlank

/-- The blank characters of core's ASCII class are blank. -/
theorem isBlank_of_isWhitespace {c : Char} (h : c.isWhitespace = true) : isBlank c = true := by
  simp only [Char.isWhitespace, Bool.or_eq_true, decide_eq_true_eq] at h
  rcases h with ((rfl | rfl) | rfl) | rfl <;> decide

theorem trimStart_eq_nil_iff {cs : List Char} : trimStart cs = [] ↔ allBlank cs = true := by
  induction cs with
  | nil => simp [trimStart, allBlank]
  | cons c cs ih =>
    simp only [trimStart, allBlank, List.dropWhile_cons, List.all_cons] at ih ⊢
    split
    · simp [*]
    · simp [*]

theorem trimStart_of_not_blank {cs : List Char} (h : ∀ c ∈ cs, isBlank c = false) :
    trimStart cs = cs := by
  cases cs with
  | nil => rfl
  | cons c cs => rw [trimStart, List.dropWhile_cons_of_neg (by simp [h c List.mem_cons_self])]

/-- A text without blank characters is left as it is. -/
theorem trim_of_not_blank {cs : List Char} (h : ∀ c ∈ cs, isBlank c = false) : trim cs = cs := by
  have reversed : ∀ c ∈ cs.reverse, isBlank c = false :=
    fun c mem => h c (List.mem_reverse.1 mem)
  rw [trim, trimStart_of_not_blank h, trimEnd, trimStart_of_not_blank reversed,
    List.reverse_reverse]

theorem mem_of_mem_trim {cs : List Char} {c : Char} (h : c ∈ trim cs) : c ∈ cs := by
  rw [trim, trimEnd, List.mem_reverse] at h
  have start : c ∈ trimStart cs :=
    List.mem_reverse.1 ((List.dropWhile_sublist isBlank).subset h)
  exact (List.dropWhile_sublist isBlank).subset start

/-- Trimming leaves nothing of blank characters alone, and something of any other text. -/
theorem trim_eq_nil_iff {cs : List Char} : trim cs = [] ↔ allBlank cs = true := by
  rw [trim, trimEnd, List.reverse_eq_nil_iff, trimStart_eq_nil_iff]
  constructor
  · intro blank
    rw [← trimStart_eq_nil_iff]
    cases start : trimStart cs with
    | nil => rfl
    | cons c rest =>
      -- the first character that is left at the start is not blank
      have first : isBlank c = false := by
        have notBlank := List.head?_dropWhile_not isBlank cs
        rwa [show cs.dropWhile isBlank = c :: rest from start] at notBlank
      have all : ∀ d ∈ trimStart cs, isBlank d = true := by
        simpa [allBlank, List.all_eq_true] using blank
      rw [all c (start ▸ List.mem_cons_self)] at first
      cases first
  · intro blank
    rw [trimStart_eq_nil_iff.2 blank]
    rfl

end TextCursor.Text
