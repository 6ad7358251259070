import TextCursor.Text.Blank

/-!
# Settings

How much is logged and where the history is kept, as the variables of the environment say.
-/

namespace TextCursor

/-- How much is logged. -/
inductive LogLevel where
  | off
  | error
  | warn
  | info
  | debug
  | trace
  deriving DecidableEq, Repr

namespace LogLevel

/-- The name of a level. -/
def name : LogLevel → String
  | .off => "OFF"
  | .error => "ERROR"
  | .warn => "WARN"
  | .info => "INFO"
  | .debug => "DEBUG"
  | .trace => "TRACE"

/-- Every level. -/
def all : List LogLevel :=
  [.off, .error, .warn, .info, .debug, .trace]

/-- The level with a given name, in letters of either case of ASCII. -/
def ofName? (name : List Char) : Option LogLevel :=
  all.find? fun level => level.name.toList == name.map Char.toUpper

end LogLevel

/-- What the environment says. -/
structure Settings where
  logLevel : LogLevel
  /-- What was given as a level and is none. -/
  invalidLogLevel : Option String
  /-- The file that holds the history, if there is one. -/
  history : Option String
  deriving DecidableEq, Repr

namespace Settings

/-- The name of the variable that gives the level. -/
def logVariable : String := "STRSCAN_LOG"

/-- The name of the variable that gives the file of the history. -/
def historyVariable : String := "STRSCAN_HISTORY"

/-- The name of the file of the history in the home directory. -/
def historyFile : String := ".strscan_history"

/-- A file in a directory. -/
def inDirectory (directory file : String) : String :=
  match directory.toList.getLast? with
  | none | some '/' => directory ++ file
  | _ => directory ++ "/" ++ file

/-- The level that the variable gives, and what it holds if that is no level. Blank characters
around the name do not count. -/
def readLevel : Option String → LogLevel × Option String
  | none => (.off, none)
  | some given =>
    match LogLevel.ofName? (Text.trim given.toList) with
    | some level => (level, none)
    | none => (.warn, some given)

/-- The settings that the two variables and the home directory give. -/
def ofVariables (log history home : Option String) : Settings :=
  let (logLevel, invalidLogLevel) := readLevel log
  ⟨logLevel, invalidLogLevel, history <|> home.map (inDirectory · historyFile)⟩

/-- The settings where nothing is given. -/
def standard : Settings :=
  ofVariables none none none

/-- The warning about a level that is none. -/
def warning? (s : Settings) : Option String :=
  s.invalidLogLevel.map fun given =>
    "[WARN] Ignoring invalid " ++ logVariable ++ " value: " ++ given

end Settings

end TextCursor
