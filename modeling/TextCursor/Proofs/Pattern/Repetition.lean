import TextCursor.Pattern

/-!
# Characters of a set, once or more often

The program that takes one or more characters of a set takes, at the start of a text, all up to the
first that is not in the set, and matches nothing where there is none (`matched?_manyOf`). The
program that takes one character takes the first, if it is in the set (`matched?_oneOf`).
-/

namespace TextCursor.Pattern

/-- The program of one or more characters of a set, as many as possible. -/
def manyOf (set : CharSet) : Program :=
  ⟨#[.accept, .split 2 0, .take set 1], 2⟩

namespace Program

/-- Without threads the report that stands is the last one. -/
theorem run_nil (p : Program) (text : List Char) (taken : Nat) (found : Option Nat) :
    p.run true text taken [] found = found := by
  cases text with
  | nil => rfl
  | cons c rest => rfl

theorem spawn_again (set : CharSet) (before after : Option Char) :
    (manyOf set).spawn before after (manyOf set).unreached 1 = ⟨#[true, true, true], [0, 2]⟩ := rfl

/-- The thread that waits for a character goes on to decide whether to take another, or dies. -/
theorem advance_take (set : CharSet) (before after : Option Char) (c : Char) :
    ((manyOf set).advance [2] before after c).threads.reverse =
      if set.contains c then [2, 0] else [] := by
  have successor : (manyOf set).successor? c 2 = if set.contains c then some 1 else none := rfl
  rw [advance, List.filterMap_cons, successor]
  cases set.contains c with
  | false => rfl
  | true =>
    show ((manyOf set).spawn before after (manyOf set).unreached 1).threads.reverse = _
    rw [spawn_again]
    rfl

/-- Once something has been taken, all that follows in the set is taken too. -/
theorem run_again (set : CharSet) (text : List Char) (taken : Nat) (found : Option Nat) :
    (manyOf set).run true text taken [2, 0] found =
      some (taken + (text.takeWhile set.contains).length) := by
  induction text generalizing taken found with
  | nil => rfl
  | cons c rest ih =>
    show (manyOf set).run true rest (taken + 1)
      ((manyOf set).advance [2] (some c) rest.head? c).threads.reverse (some taken) = _
    rw [advance_take, List.takeWhile_cons]
    cases set.contains c with
    | false => exact run_nil (manyOf set) rest (taken + 1) (some taken)
    | true =>
      show (manyOf set).run true rest (taken + 1) [2, 0] (some taken) =
        some (taken + (c :: rest.takeWhile set.contains).length)
      rw [ih, List.length_cons, Nat.add_assoc, Nat.add_comm 1]

/-- At the start of a text one or more characters of a set match as many as there are. -/
theorem matchLength?_manyOf (set : CharSet) (text : List Char) :
    (manyOf set).matchLength? true text =
      if text.takeWhile set.contains = [] then none
      else some (text.takeWhile set.contains).length := by
  show (manyOf set).run true text 0 [2] none = _
  cases text with
  | nil => rfl
  | cons c rest =>
    show (manyOf set).run true rest 1
      ((manyOf set).advance [2] (some c) rest.head? c).threads.reverse none = _
    rw [advance_take, List.takeWhile_cons]
    cases set.contains c with
    | false => exact run_nil (manyOf set) rest 1 none
    | true =>
      show (manyOf set).run true rest 1 [2, 0] none =
        some (c :: rest.takeWhile set.contains).length
      rw [run_again, List.length_cons, Nat.add_comm]

end Program

/-- What is taken at the start of a text, if there is anything to take. -/
theorem matched?_manyOf (set : CharSet) (text : String) :
    Pattern.matched? ⟨manyOf set⟩ true text =
      if text.toList.takeWhile set.contains = [] then none
      else some (String.ofList (text.toList.takeWhile set.contains)) := by
  rw [matched?, Program.matchLength?_manyOf]
  split
  · rfl
  · have whole : text.toList.takeWhile set.contains ++ text.toList.dropWhile set.contains
        = text.toList := List.takeWhile_append_dropWhile
    rw [Option.map_some, ← whole, List.take_left' (by rw [whole]), whole]

/-! ## One character -/

/-- The program of one character of a set. -/
def oneOf (set : CharSet) : Program :=
  ⟨#[.accept, .take set 0], 1⟩

namespace Program

/-- A report that has been made stands, as no thread is left behind it. -/
theorem run_accept (set : CharSet) (text : List Char) (taken : Nat) :
    (oneOf set).run true text taken [0] none = some taken := by
  cases text with
  | nil => rfl
  | cons c rest => rfl

theorem matchLength?_oneOf (set : CharSet) (text : List Char) :
    (oneOf set).matchLength? true text = if text.head?.any set.contains then some 1 else none := by
  show (oneOf set).run true text 0 [1] none = _
  cases text with
  | nil => rfl
  | cons c rest =>
    have successor : (oneOf set).successor? c 1 = if set.contains c then some 0 else none := rfl
    show (oneOf set).run true rest 1
      ((oneOf set).advance [1] (some c) rest.head? c).threads.reverse none =
        if set.contains c then some 1 else none
    rw [advance, List.filterMap_cons, successor]
    cases set.contains c with
    | false => exact run_nil (oneOf set) rest 1 none
    | true => exact run_accept set rest 1

end Program

/-- What is taken at the start of a text is its first character, if that is in the set. -/
theorem matched?_oneOf (set : CharSet) (text : String) :
    Pattern.matched? ⟨oneOf set⟩ true text =
      (text.toList.head?.filter set.contains).map String.singleton := by
  rw [matched?, Program.matchLength?_oneOf]
  cases h : text.toList with
  | nil => rfl
  | cons c rest =>
    rw [List.head?_cons, Option.any_some, Option.filter_some]
    cases set.contains c with
    | false => rfl
    | true => rfl

end TextCursor.Pattern
