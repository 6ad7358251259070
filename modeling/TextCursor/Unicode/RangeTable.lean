import TextCursor.Text.Numeral

/-!
# Tables of code points

A table lists a set of code points as spans: from a first to a last code point in equal steps. Its
written form is a text such as `"41-5A 61-7A 100-12E/2 AA"`: spans in hexadecimal between blanks
or line breaks, a single code point standing for itself, and `/2` giving the step.
-/

namespace TextCursor.Unicode

/-- The code points `first`, `first + step`, … that do not exceed `last`. -/
structure CodeSpan where
  first : Nat
  last : Nat
  step : Nat := 1
  deriving DecidableEq, Repr

/-- Whether the span holds a code point. -/
def CodeSpan.contains (s : CodeSpan) (n : Nat) : Bool :=
  s.first ≤ n && n ≤ s.last && (n - s.first) % s.step == 0

/-- A set of code points, as a list of spans. -/
structure RangeTable where
  spans : List CodeSpan
  deriving DecidableEq, Repr

namespace RangeTable

/-- The table of no code points. -/
def empty : RangeTable := ⟨[]⟩

/-- Whether a character's code point is in the table. -/
def contains (t : RangeTable) (c : Char) : Bool :=
  t.spans.any (·.contains c.toNat)

/-! ## Written form -/

/-- What has been read of a written table: whole spans, and of the span under way the numbers
before the current one, each list with the latest first. -/
structure Reading where
  spans : List CodeSpan := []
  numbers : List Nat := []
  current : Option Nat := none

/-- Ends the span under way, if there is one. -/
def Reading.close (r : Reading) : Reading :=
  match r.current, r.numbers with
  | some n, [] => { spans := ⟨n, n, 1⟩ :: r.spans }
  | some last, [first] => { spans := ⟨first, last, 1⟩ :: r.spans }
  | some step, [last, first] => { spans := ⟨first, last, step⟩ :: r.spans }
  | _, _ => { spans := r.spans }

/-- Reads one more character. -/
def Reading.step (r : Reading) (c : Char) : Reading :=
  match Text.hexDigit? c with
  | some d => { r with current := some (r.current.getD 0 * 16 + d) }
  | none =>
    match r.current with
    | some n => if c = '-' || c = '/' then { r with numbers := n :: r.numbers, current := none }
                else r.close
    | none => r

/-- The table with a given written form. -/
def ofText (s : String) : RangeTable :=
  ⟨(s.toList.foldl Reading.step {}).close.spans.reverse⟩

example : (ofText "41-5A 100-104/2\nAA").spans
    = [⟨0x41, 0x5A, 1⟩, ⟨0x100, 0x104, 2⟩, ⟨0xAA, 0xAA, 1⟩] := by
  decide

@[simp]
theorem not_contains_empty (c : Char) : empty.contains c = false := rfl

end RangeTable

end TextCursor.Unicode
