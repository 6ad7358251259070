import TextCursor.Text.Blank
import TextCursor.Text.Numeral

/-!
# Keys

A key names a character of a text by its position, or a run of characters by a slice. Positions
are counted from the start of the text, and negative ones from its end. A key is written as its
numbers with colons between them.
-/

namespace TextCursor

/-- A place or a slice of a text. -/
inductive Key where
  | place (i : Int64)
  | slice (start stop step : Option Int64)
  deriving DecidableEq, Repr

namespace Key

/-! ## Written form -/

/-- A bound of a slice; an absent one is written as nothing. -/
def showBound (b : Option Int64) : String :=
  match b with
  | some i => Text.signed i
  | none => ""

/-- The written form of a key. A step that is absent takes its colon with it. -/
def toText : Key → String
  | .place i => Text.signed i
  | .slice start stop none => showBound start ++ ":" ++ showBound stop
  | .slice start stop (some step) =>
    showBound start ++ ":" ++ showBound stop ++ ":" ++ showBound (some step)

/-! ## Reading -/

/-- The parts of a text between its colons. -/
def splitColons : List Char → List (List Char)
  | [] => [[]]
  | c :: cs =>
    if c = ':' then [] :: splitColons cs
    else
      match splitColons cs with
      | part :: parts => (c :: part) :: parts
      | [] => [[c]]

/-- A bound as written between colons: blank for an absent one. Gives `none` if it is neither
blank nor a number of 64 bits. -/
def readBound? (part : List Char) : Option (Option Int64) :=
  match Text.trim part with
  | [] => some none
  | digits => (Text.readSigned? digits).map some

/-- The key that a text gives, if it gives one. -/
def ofText? (s : String) : Option Key :=
  match splitColons (Text.trim s.toList) with
  | [only] => do
    let i ← readBound? only
    return .place (← i)
  | [start, stop] => return .slice (← readBound? start) (← readBound? stop) none
  | [start, stop, step] =>
    return .slice (← readBound? start) (← readBound? stop) (← readBound? step)
  | _ => none

theorem splitColons_ne_nil (cs : List Char) : splitColons cs ≠ [] := by
  cases cs with
  | nil => simp [splitColons]
  | cons c cs =>
    simp only [splitColons]
    split
    · simp
    · split <;> simp

end Key

end TextCursor
