import TextCursor.Cursor

/-!
# Reading commands

A line is split into a word and an argument by a cursor of its own: blank characters before the
word do not count, one space or tab ends it, and all behind that is the argument, as it stands.
The word then says which command it is and what the argument means.
-/

namespace TextCursor

/-- Why a line or a command has no answer. -/
inductive CommandError where
  | unknownCommand (text : String)
  | missingArgument (word : String)
  | invalidCount (text : String)
  | scan (e : ScanError)
  deriving DecidableEq, Repr

/-- The wording of an error. -/
def CommandError.message : CommandError → String
  | .unknownCommand text => "Unknown command: " ++ text
  | .missingArgument word => "Missing argument for " ++ word
  | .invalidCount text => "Invalid count: " ++ text
  | .scan e => e.message

namespace Command

/-- Splits a line into its word and its argument; a blank line has neither. -/
def split (line : String) : Effect Cursor CommandError (Option (String × String)) :=
  (((Cursor.new line).skip "\\s+").mapError .scan).andThen fun _ c =>
    if c.atEnd then .done none c
    else
      ((c.scan "\\w+").mapError .scan).andThen fun word? c =>
        match word? with
        | none => .fail (.unknownCommand c.rest) c
        | some word =>
          ((c.skip "[ \\t]").mapError .scan).andThen fun n c =>
            if n = 0 && !c.atEnd then .fail (.unknownCommand (word ++ c.rest)) c
            else ⟨.ok (some (word, c.rest)), c, [.split word c.rest]⟩

/-- The argument of a command that needs one. -/
def required (word argument : String) : Except CommandError String :=
  if argument.isEmpty then .error (.missingArgument word) else .ok argument

/-- The count that an argument gives; without one it is one. -/
def readCount (argument : String) : Except CommandError Nat :=
  match Text.trim argument.toList with
  | [] => .ok 1
  | digits =>
    match Text.readWord? digits with
    | some n => .ok n
    | none => .error (.invalidCount (String.ofList digits))

/-- The key that an argument gives. -/
def readKey (argument : String) : Except CommandError Key :=
  match Key.ofText? argument with
  | some key => .ok key
  | none => .error (.scan (.invalidKey argument))

/-- The command that a word and an argument give. -/
def ofWord (word argument : String) : Except CommandError Command :=
  match word with
  | "new" => .ok (.new argument)
  | "append" => (required word argument).map .append
  | "unscan" => .ok .unscan
  | "getch" => .ok .getch
  | "peek" => (readCount argument).map .peek
  | "rest" => .ok .rest
  | "pos" => .ok .pos
  | "eos" => .ok .eos
  | "char" => .ok .char
  | "matched" => .ok .matched
  | "index" => do
    let text ← required word argument
    return .index (← readKey text)
  | "state" => .ok .state
  | "show" => .ok .showCursor
  | "exit" => .ok .exit
  | _ =>
    match MatchOp.ofWord? word with
    | some op => (required word argument).map (.search op)
    | none => .error (.unknownCommand word)

/-- Reads the command on a line; a blank line holds none. -/
def parse (line : String) : Effect Cursor CommandError (Option Command) :=
  (split line).andThen fun parts? c =>
    match parts? with
    | none => .done none c
    | some (word, argument) => .ofExcept ((ofWord word argument).map some) c

end Command

end TextCursor
