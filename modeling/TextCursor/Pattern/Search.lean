import TextCursor.Pattern.Program

/-!
# Searching

A program is run on a text by following all its ways at once. The threads at a position are the
places that wait there for a character or report a match, in order of preference and each place
once. A report drops the threads behind it; so the report that stands at the end is that of the
most preferred way.

An anchored search starts one thread at the beginning. A search that is not anchored starts
another behind all others at each further position, as long as nothing has been reported; so an
earlier start is preferred to a later one.

`Program.matchLength?_le` bounds the result by the length of the text.
-/

namespace TextCursor.Pattern

namespace Program

/-! ## Threads -/

/-- The places reached at a position: which have been visited, and those among them that wait for
a character or report, the latest first. -/
structure Reached where
  visited : Array Bool
  threads : List Nat

/-- Follows the ways that lead from the places on a stack without taking a character, depth first
and visiting no place twice. Each step takes a place off the stack. -/
def follow (p : Program) (before after : Option Char) : (fuel : Nat) → List Nat → Reached → Reached
  | 0, _, r => r
  | _ + 1, [], r => r
  | fuel + 1, place :: stack, r =>
    if r.visited.getD place true then follow p before after fuel stack r
    else
      let r := { r with visited := r.visited.setIfInBounds place true }
      match p.code[place]? with
      | some (.split first second) => follow p before after fuel (first :: second :: stack) r
      | some (.look l next) =>
        if l.holds before after then follow p before after fuel (next :: stack) r
        else follow p before after fuel stack r
      | _ => follow p before after fuel stack { r with threads := place :: r.threads }

/-- Adds the threads that a place leads to. A visit adds at most two places to the stack, so
twice the number of places and two steps more are enough. -/
def spawn (p : Program) (before after : Option Char) (r : Reached) (place : Nat) : Reached :=
  follow p before after (2 * p.code.size + 2) [place] r

/-- The state in which no place has been reached. -/
def unreached (p : Program) : Reached :=
  ⟨Array.replicate p.code.size false, []⟩

/-- Where a thread goes on when it takes a character, if it does. -/
def successor? (p : Program) (c : Char) (place : Nat) : Option Nat :=
  match p.code[place]? with
  | some (.take set next) => if set.contains c then some next else none
  | _ => none

/-- Whether a place reports a match. -/
def reports (p : Program) (place : Nat) : Bool :=
  match p.code[place]? with
  | some .accept => true
  | _ => false

/-! ## Runs -/

/-- The report that stands when the threads have come so far. -/
def reported (p : Program) (threads : List Nat) (taken : Nat) (found : Option Nat) : Option Nat :=
  if threads.any p.reports then some taken else found

/-- The threads after a character has been taken. -/
def advance (p : Program) (threads : List Nat) (before after : Option Char) (c : Char) : Reached :=
  (threads.filterMap (p.successor? c)).foldl (p.spawn before after) p.unreached

/-- Runs the threads over the rest of a text, of which `taken` characters have been taken;
`found` is the report that stands. -/
def run (p : Program) (anchored : Bool) : List Char → (taken : Nat) → (threads : List Nat) →
    (found : Option Nat) → Option Nat
  | [], taken, threads, found => p.reported threads taken found
  | c :: rest, taken, threads, found =>
    let found := p.reported threads taken found
    let live := threads.takeWhile fun place => !p.reports place
    let searching := !anchored && found.isNone
    if live.isEmpty && !searching then found
    else
      let r := p.advance live (some c) rest.head? c
      let r := if searching then p.spawn (some c) rest.head? r p.start else r
      p.run anchored rest (taken + 1) r.threads.reverse found

/-- The number of characters up to the end of the match in a text, if there is one. What precedes
the match, in a search that is not anchored, is counted too. -/
def matchLength? (p : Program) (anchored : Bool) (text : List Char) : Option Nat :=
  p.run anchored text 0 (p.spawn none text.head? p.unreached p.start).threads.reverse none

/-! ## Bounds -/

theorem reported_le {p : Program} {threads : List Nat} {taken n bound : Nat} {found : Option Nat}
    (h : p.reported threads taken found = some n) (h' : taken ≤ bound)
    (hf : ∀ m, found = some m → m ≤ bound) : n ≤ bound := by
  unfold reported at h
  split at h
  · cases h; exact h'
  · exact hf n h

theorem run_le {p : Program} {anchored : Bool} {text : List Char} {taken n : Nat}
    {threads : List Nat} {found : Option Nat} (h : p.run anchored text taken threads found = some n)
    (hf : ∀ m, found = some m → m ≤ taken + text.length) : n ≤ taken + text.length := by
  induction text generalizing taken threads found with
  | nil => exact reported_le h (Nat.le_add_right _ _) hf
  | cons c rest ih =>
    have hf' : ∀ m, p.reported threads taken found = some m → m ≤ taken + (c :: rest).length :=
      fun m hm => reported_le hm (Nat.le_add_right _ _) hf
    have shift : taken + 1 + rest.length = taken + (c :: rest).length := by
      rw [List.length_cons]; omega
    simp only [run] at h
    split at h
    · exact hf' n h
    · rw [← shift]
      exact ih h (shift ▸ hf')

/-- A match ends inside the text. -/
theorem matchLength?_le {p : Program} {anchored : Bool} {text : List Char} {n : Nat}
    (h : p.matchLength? anchored text = some n) : n ≤ text.length := by
  have := run_le h (by simp)
  omega

end Program

end TextCursor.Pattern
