import TextCursor.Command.Parser
import TextCursor.Snapshot.Json

/-!
# Sessions

A session is a cursor that is driven by lines, each of which holds a command.
-/

namespace TextCursor

/-- What a session answers to a line. -/
inductive Reply where
  | output (text : String)
  | silent
  | exit
  deriving DecidableEq, Repr

/-- A cursor driven by lines. -/
structure Session where
  cursor : Cursor

namespace Session

/-- A session on the empty text. -/
def new : Session :=
  ⟨Cursor.new ""⟩

/-- The text that stands for something absent. -/
def orNil (text : Option String) : String :=
  text.getD "nil"

/-- The result of a matching operation as it is shown. -/
def showResult : Cursor.MatchResult → String
  | .text m => orNil m
  | .length n => toString n

/-- What a command does to a cursor and answers. -/
def reply (c : Cursor) : Command → Cursor.Op Reply
  | .new text => .done .silent (Cursor.new text)
  | .append text => .done .silent (c.append text)
  | .unscan => c.unscan.map fun _ => .silent
  | .exit => .done .exit c
  | .search op pattern => (c.search op pattern).map fun r => .output (showResult r)
  | .getch => c.getch.map fun ch => .output (String.singleton ch)
  | .peek n => .done (.output (c.peek n)) c
  | .rest => .done (.output c.rest) c
  | .pos => .done (.output (toString c.position)) c
  | .eos => .done (.output (toString c.atEnd)) c
  | .char => .done (.output (orNil (c.current?.map String.singleton))) c
  | .matched => .done (.output (orNil c.matched)) c
  | .index key => .ofExcept ((c.get key).map .output) c
  | .state => .done (.output c.snapshot.toJson) c
  | .showCursor => .done (.output c.describe) c

/-- Runs a command. -/
def run (s : Session) (command : Command) : Effect Session CommandError Reply :=
  (((reply s.cursor command).mapError .scan).mapState Session.mk).logging [.running command]

/-- Runs the command on a line, if it holds one. -/
def execute (s : Session) (line : String) : Effect Session CommandError Reply :=
  let parsed := Command.parse line
  match parsed.result with
  | .error e => ⟨.error e, s, parsed.log⟩
  | .ok none => ⟨.ok .silent, s, parsed.log⟩
  | .ok (some command) => (s.run command).logging parsed.log

/-- Executes lines one after another, whatever they answer. -/
def executeAll (s : Session) : List String → List (Effect Session CommandError Reply)
  | [] => []
  | line :: lines =>
    let e := s.execute line
    e :: e.after.executeAll lines

end Session

end TextCursor
