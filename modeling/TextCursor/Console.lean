import TextCursor.History
import TextCursor.Session
import TextCursor.Settings
import TextCursor.Text.Backspace

/-!
# The program

The program feeds the lines of its input to a session, writes what the session answers to its
output and its errors, and keeps the lines in a history. It stops at the end of the input, at a
line that says so, and at a line that is no text.
-/

namespace TextCursor.Console

/-! ## Lines -/

/-- A piece of the input between line feeds, and whether a line feed ends it. -/
structure Piece where
  bytes : List UInt8
  ended : Bool
  deriving DecidableEq, Repr

/-- The pieces of the input. There is none after the last line feed. -/
def pieces : List UInt8 → List Piece
  | [] => []
  | b :: bs =>
    if b = 10 then ⟨[], true⟩ :: pieces bs
    else
      match pieces bs with
      | [] => [⟨[b], false⟩]
      | p :: ps => { p with bytes := b :: p.bytes } :: ps

/-- The text without a carriage return at its end. -/
def dropReturn (s : String) : String :=
  if s.toList.getLast? = some '\r' then String.ofList s.toList.dropLast else s

/-- The line that a piece stands for, if it is text. A carriage return before the line feed belongs
to the line's end. Backspaces in the line have done their work, which `Text.applyBackspaces` says. -/
def Piece.line? (p : Piece) : Option String :=
  (String.fromUTF8? ⟨p.bytes.toArray⟩).map fun s =>
    let s := if p.ended then dropReturn s else s
    String.ofList (Text.applyBackspaces s.toList)

/-- What is written where a line is no text. -/
def undecodable : String :=
  "Error: Io(Error \x7B kind: InvalidData, message: \"stream did not contain valid UTF-8\" \x7D)"

/-! ## Running -/

/-- What a run writes, line by line, and the history that it leaves. -/
structure Transcript where
  output : List String
  errors : List String
  history : History
  deriving DecidableEq, Repr

/-- A run on the given lines, of which those that are no text are `none`. -/
def runLines (s : Session) (h : History) : List (Option String) → Transcript
  | [] => ⟨[], [], h⟩
  | none :: _ => ⟨[undecodable], [], h⟩
  | some line :: lines =>
    let h := h.enter line
    let e := s.execute line
    match e.result with
    | .ok .exit => ⟨[], [], h⟩
    | .ok .silent => runLines e.after h lines
    | .ok (.output text) =>
      let t := runLines e.after h lines
      if text.isEmpty then t else { t with output := text :: t.output }
    | .error err =>
      let t := runLines e.after h lines
      { t with errors := err.message :: t.errors }

/-- Lines as they are written, each with its line feed. -/
def unlines (lines : List String) : String :=
  String.join (lines.map fun line => line ++ "\n")

/-- What the program leaves behind. -/
structure Outcome where
  output : String
  errors : String
  code : UInt32
  /-- The text of the file of the history, if there is anything to keep. -/
  history : Option String
  deriving DecidableEq, Repr

/-- The program on an input of which each piece is read as a line in a given way, where the log takes
no more than warnings. A warning about the settings comes first. -/
def runReading (read : Piece → Option String) (settings : Settings) (input : List UInt8) : Outcome :=
  let t := runLines .new .empty ((pieces input).map read)
  ⟨unlines t.output, unlines (settings.warning?.toList ++ t.errors), 0, t.history.toFile?⟩

/-- The program on an input. -/
def run (settings : Settings) (input : List UInt8) : Outcome :=
  runReading Piece.line? settings input

end TextCursor.Console
