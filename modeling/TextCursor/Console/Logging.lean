import TextCursor.Console
import TextCursor.Log

/-!
# The program with its log

The log is written to the errors, where its records stand among the wordings of the errors that
commands have. The level of the log says which of the records are written.
-/

namespace TextCursor.Console

/-- Something for the errors: a record of the log, or the wording of an error. -/
inductive Notice where
  | record (r : Record)
  | complaint (text : String)
  deriving DecidableEq, Repr

/-- The line that is written for a notice. A record is not written if the log does not take it. -/
def Notice.line? (limit : LogLevel) : Notice → Option String
  | .record r => if limit.admits r.level then some r.line else none
  | .complaint text => some text

/-- Notices as they are written where the log has a level. -/
def written (limit : LogLevel) (notices : List Notice) : String :=
  unlines (notices.filterMap (Notice.line? limit))

/-- What a run on the given lines has for the errors, of which the events of a line come first. -/
def notices (s : Session) : List (Option String) → List Notice
  | [] => []
  | none :: _ => []
  | some line :: lines =>
    let e := s.execute line
    e.log.map (.record ·.record) ++
      match e.result with
      | .ok .exit => []
      | .ok _ => notices e.after lines
      | .error err => .complaint err.message :: notices e.after lines

theorem notices_some (s : Session) (line : String) (lines : List (Option String)) :
    notices s (some line :: lines) =
      (s.execute line).log.map (.record ·.record) ++
        match (s.execute line).result with
        | .ok .exit => []
        | .ok _ => notices (s.execute line).after lines
        | .error err => .complaint err.message :: notices (s.execute line).after lines := by
  rfl

/-- What comes before the first line. -/
def opening (settings : Settings) : List Notice :=
  (settings.warningRecord?.toList ++ settings.unreadRecord?.toList).map .record

/-- What comes behind the last line if there is a problem with saving the history. -/
def closing (settings : Settings) (problem : Option String) : List Notice :=
  (problem.bind settings.unsavedRecord?).toList.map .record

/-- The program on an input with its log. There is no history before the run, and `problem` is what
goes wrong with saving it, if anything does. -/
def runLogging (settings : Settings) (problem : Option String) (input : List UInt8) : Outcome :=
  let lines := (pieces input).map Piece.line?
  { run settings input with
    errors := written settings.logLevel
      (opening settings ++ notices .new lines ++ closing settings problem) }

end TextCursor.Console
