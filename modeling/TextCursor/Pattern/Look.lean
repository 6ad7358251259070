import TextCursor.Unicode.Word

/-!
# Conditions between two characters

A pattern may ask for the start or end of the text or of a line, or for an edge of a word. Each
such condition is decided by the character before the position and the one after it.
-/

namespace TextCursor.Pattern

/-- Which kind of place around a word a condition asks for. -/
inductive WordEdge where
  /-- Exactly one side is a word character. -/
  | boundary
  /-- Both sides are word characters, or neither is. -/
  | noBoundary
  | start
  | finish
  /-- What is before is no word character. -/
  | startHalf
  /-- What is after is no word character. -/
  | finishHalf
  deriving DecidableEq, Repr

/-- A condition on the position between two characters. -/
inductive Look where
  | textStart
  | textEnd
  | lineStart
  | lineEnd
  /-- The start of a line when `\r`, `\n` and `\r\n` all end lines. -/
  | anyLineStart
  /-- The end of a line when `\r`, `\n` and `\r\n` all end lines. -/
  | anyLineEnd
  | word (edge : WordEdge) (ascii : Bool)
  deriving DecidableEq, Repr

/-- Whether the place between a word character or not, and a word character or not, is of the
kind. -/
def WordEdge.holds : WordEdge → (before after : Bool) → Bool
  | .boundary, before, after => before != after
  | .noBoundary, before, after => before == after
  | .start, before, after => !before && after
  | .finish, before, after => before && !after
  | .startHalf, before, _ => !before
  | .finishHalf, _, after => !after

/-- Whether there is a character and it is a word character. -/
def isWordSide (ascii : Bool) (side : Option Char) : Bool :=
  side.any (if ascii then Unicode.isAsciiWordChar else Unicode.isWordChar)

/-- Whether the condition holds between two characters; `none` stands for an end of the text. -/
def Look.holds : Look → (before after : Option Char) → Bool
  | .textStart, before, _ => before == none
  | .textEnd, _, after => after == none
  | .lineStart, before, _ => before == none || before == some '\n'
  | .lineEnd, _, after => after == none || after == some '\n'
  | .anyLineStart, before, after =>
    before == none || before == some '\n' || (before == some '\r' && after != some '\n')
  | .anyLineEnd, before, after =>
    after == none || after == some '\r' || (after == some '\n' && before != some '\r')
  | .word edge ascii, before, after => edge.holds (isWordSide ascii before) (isWordSide ascii after)

end TextCursor.Pattern
