/-!
# Why a text is not the JSON asked for
-/

namespace TextCursor.Json

/-- What is wrong with a text, at the first place where something is. -/
inductive ReadError where
  /-- No JSON goes on like this. -/
  | malformed
  /-- The text ends too early. -/
  | truncated
  /-- This is JSON, but not of the form asked for. -/
  | unexpected
  deriving DecidableEq, Repr

/-- Whether the character may stand between the parts of a JSON text. -/
def isSpace (c : Char) : Bool :=
  c == ' ' || c == '\t' || c == '\n' || c == '\r'

/-- The text from the first character on that is not space. -/
def skipSpace (cs : List Char) : List Char :=
  cs.dropWhile isSpace

end TextCursor.Json
