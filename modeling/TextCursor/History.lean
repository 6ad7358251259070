import TextCursor.Text.Blank

/-!
# History

The lines that were entered, kept for later: no blank lines, no line twice in a row, and only the
latest. In a file each takes one line, below a header.
-/

namespace TextCursor

/-- The lines kept, the oldest first. -/
structure History where
  entries : List String
  deriving DecidableEq, Repr

namespace History

/-- No lines. -/
def empty : History := ⟨[]⟩

/-- How many lines are kept. -/
def limit : Nat := 100

/-- One more line. A line that repeats the one before it is not kept, and when there are too many
the oldest is dropped. -/
def add (h : History) (line : String) : History :=
  if h.entries.getLast? = some line then h
  else
    let entries := h.entries ++ [line]
    ⟨entries.drop (entries.length - limit)⟩

/-- A line as it was entered: kept unless it is blank. -/
def enter (h : History) (line : String) : History :=
  if Text.allBlank line.toList then h else h.add line

/-! ## File -/

/-- The first line of a file. -/
def header : String := "#V2"

/-- A character of a line in a file. -/
def writeChar (c : Char) : List Char :=
  if c = '\\' then ['\\', '\\']
  else if c = '\n' then ['\\', 'n']
  else [c]

/-- A line in a file. -/
def writeEntry (line : String) : String :=
  String.ofList (line.toList.flatMap writeChar)

/-- The text of the file, if there is anything to keep. -/
def toFile? (h : History) : Option String :=
  if h.entries.isEmpty then none
  else some (header ++ "\n" ++ String.join (h.entries.map fun line => writeEntry line ++ "\n"))

/-- Undoes the escapes of a line in a file. -/
def readChars : List Char → List Char
  | '\\' :: '\\' :: cs => '\\' :: readChars cs
  | '\\' :: 'n' :: cs => '\n' :: readChars cs
  | c :: cs => c :: readChars cs
  | [] => []

theorem readChars_flatMap_writeChar (cs : List Char) :
    readChars (cs.flatMap writeChar) = cs := by
  induction cs with
  | nil => rfl
  | cons c cs ih =>
    by_cases h : c = '\\'
    · subst h; simp [writeChar, readChars, ih]
    · by_cases h' : c = '\n'
      · subst h'; simp [writeChar, readChars, ih]
      · simp [writeChar, h, h', readChars, ih]

end History

end TextCursor
