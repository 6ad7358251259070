import TextCursor.Event
import TextCursor.Settings

/-!
# Log

What the program reports about itself goes to the log as a record of some level. The log has a level
too, and takes the records that do not tell more than that.
-/

namespace TextCursor

namespace LogLevel

/-- How much is told at a level. -/
def verbosity : LogLevel → Nat
  | .off => 0
  | .error => 1
  | .warn => 2
  | .info => 3
  | .debug => 4
  | .trace => 5

/-- Whether a log of one level takes a record of another. -/
def admits (limit level : LogLevel) : Bool :=
  level.verbosity ≤ limit.verbosity

end LogLevel

/-- A report for the log. -/
structure Record where
  level : LogLevel
  /-- The part of the program that reports. -/
  source : String
  message : String
  deriving DecidableEq, Repr

/-- The record as it is written, without the time of day. From `DEBUG` on it says where it comes
from: the thread, of which there is but one, and the part of the program. -/
def Record.line (r : Record) : String :=
  let origin :=
    if LogLevel.debug.verbosity ≤ r.level.verbosity then "(1) " ++ r.source ++ ": " else ""
  "[" ++ r.level.name ++ "] " ++ origin ++ r.message

/-- The record of an event. -/
def Event.record (e : Event) : Record :=
  ⟨.debug, e.source, e.message⟩

namespace Settings

/-- The part of the program that deals with the settings and the history. -/
def source : String := "strscan"

/-- The record about a level that is none. -/
def warningRecord? (s : Settings) : Option Record :=
  s.invalidLogLevel.map fun given =>
    ⟨.warn, source, "Ignoring invalid " ++ logVariable ++ " value: " ++ given⟩

/-- The record about a file of the history that is not there yet. -/
def unreadRecord? (s : Settings) : Option Record :=
  s.history.map fun path => ⟨.debug, source, "No history loaded from " ++ path⟩

/-- The record about a file of the history that cannot be written, and why. -/
def unsavedRecord? (s : Settings) (problem : String) : Option Record :=
  s.history.map fun path =>
    ⟨.debug, source, "Could not save history to " ++ path ++ ": " ++ problem⟩

theorem map_line_warningRecord? (s : Settings) : s.warningRecord?.map Record.line = s.warning? := by
  rw [warningRecord?, warning?, Option.map_map]
  rfl

end Settings

end TextCursor
