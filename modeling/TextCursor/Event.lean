import TextCursor.Command

/-!
# Events

What an operation reports about itself in the log. Each event belongs to one part of the program
and has one wording.
-/

namespace TextCursor

/-- Something worth a line in the log. -/
inductive Event where
  /-- A pattern is compiled, since the cursor did not have it yet. -/
  | compiling (pattern : String)
  | matched (text : String) (position : Nat) (pattern : String)
  | unmatched (position : Nat) (pattern : String)
  | unscanning (text : String) (position : Nat)
  /-- A line has been split into a word and its argument. -/
  | split (word argument : String)
  | running (command : Command)
  deriving DecidableEq, Repr

namespace Event

/-- The part of the program that reports the event. -/
def source : Event → String
  | .compiling _ => "strscan::pattern"
  | .matched _ _ _ | .unmatched _ _ | .unscanning _ _ => "strscan::scanner"
  | .split _ _ => "strscan::repl::command"
  | .running _ => "strscan::repl"

/-- The wording of the event. -/
def message : Event → String
  | .compiling pattern => "Compiling pattern: " ++ pattern
  | .matched text position pattern =>
    "Matched " ++ Text.quoted text ++ " at " ++ toString position ++ " with "
      ++ Text.quoted pattern
  | .unmatched position pattern =>
    "No match at " ++ toString position ++ " for " ++ Text.quoted pattern
  | .unscanning text position =>
    "Unscanning " ++ Text.quoted text ++ " from " ++ toString position
  | .split word argument =>
    "Command " ++ Text.quoted word ++ " with argument " ++ Text.quoted argument
  | .running command => "Running " ++ command.describe

/-- The event as a line of the log. All events are of level `DEBUG`. -/
def line (e : Event) : String :=
  "DEBUG " ++ e.source ++ ": " ++ e.message

end Event

end TextCursor
