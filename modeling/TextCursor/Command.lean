import TextCursor.Key
import TextCursor.Text.Quoted

/-!
# Commands

What a session can be told to do with its cursor.
-/

namespace TextCursor

/-- The matching operations. Those named `…Until` look for the pattern anywhere ahead. -/
inductive MatchOp where
  | check
  | scan
  | skip
  | checkUntil
  | scanUntil
  | skipUntil
  deriving DecidableEq, Repr

namespace MatchOp

/-- The word that a line gives the operation with. -/
def word : MatchOp → String
  | .check => "check"
  | .scan => "scan"
  | .skip => "skip"
  | .checkUntil => "check_until"
  | .scanUntil => "scan_until"
  | .skipUntil => "skip_until"

/-- The name of the operation in logs and answers. -/
def name : MatchOp → String
  | .check => "Check"
  | .scan => "Scan"
  | .skip => "Skip"
  | .checkUntil => "CheckUntil"
  | .scanUntil => "ScanUntil"
  | .skipUntil => "SkipUntil"

/-- Every matching operation. -/
def all : List MatchOp :=
  [.check, .scan, .skip, .checkUntil, .scanUntil, .skipUntil]

/-- The operation that a word stands for. -/
def ofWord? (w : String) : Option MatchOp :=
  all.find? fun op => op.word == w

theorem ofWord?_word (op : MatchOp) : ofWord? op.word = some op := by
  cases op <;> decide

end MatchOp

/-- One command to a session. -/
inductive Command where
  /-- Starts over with a text. -/
  | new (text : String)
  /-- Adds to the end of the text. -/
  | append (text : String)
  | search (op : MatchOp) (pattern : String)
  | unscan
  | getch
  | peek (n : Nat)
  | rest
  | pos
  | eos
  | char
  | matched
  | index (key : Key)
  | state
  | showCursor
  | exit
  deriving DecidableEq, Repr

namespace Command

/-- The word that a line gives the command with. -/
def word : Command → String
  | .new _ => "new"
  | .append _ => "append"
  | .search op _ => op.word
  | .unscan => "unscan"
  | .getch => "getch"
  | .peek _ => "peek"
  | .rest => "rest"
  | .pos => "pos"
  | .eos => "eos"
  | .char => "char"
  | .matched => "matched"
  | .index _ => "index"
  | .state => "state"
  | .showCursor => "show"
  | .exit => "exit"

/-- The name of the command in logs and answers. -/
def name : Command → String
  | .new _ => "New"
  | .append _ => "Append"
  | .search _ _ => "Match"
  | .unscan => "Unscan"
  | .getch => "Getch"
  | .peek _ => "Peek"
  | .rest => "Rest"
  | .pos => "Pos"
  | .eos => "Eos"
  | .char => "Char"
  | .matched => "Matched"
  | .index _ => "Index"
  | .state => "State"
  | .showCursor => "Show"
  | .exit => "Exit"

/-- The argument that a line gives the command with, if it takes one. -/
def argument? : Command → Option String
  | .new text | .append text => some text
  | .search _ pattern => some pattern
  | .peek n => some (toString n)
  | .index key => some key.toText
  | _ => none

/-! ## Description -/

/-- A bound of a slice in a description. -/
def describeBound : Option Int64 → String
  | none => "None"
  | some i => "Some(" ++ Text.signed i ++ ")"

/-- A key in a description. -/
def describeKey : Key → String
  | .place i => "At(" ++ Text.signed i ++ ")"
  | .slice start stop step =>
    "Slice \x7B start: " ++ describeBound start ++ ", stop: " ++ describeBound stop
      ++ ", step: " ++ describeBound step ++ " \x7D"

/-- A command with its arguments, as the log shows it. -/
def describe (c : Command) : String :=
  match c with
  | .new text | .append text => c.name ++ "(" ++ Text.quoted text ++ ")"
  | .search op pattern =>
    c.name ++ " \x7B op: " ++ op.name ++ ", pattern: " ++ Text.quoted pattern ++ " \x7D"
  | .peek n => c.name ++ "(" ++ toString n ++ ")"
  | .index key => c.name ++ "(" ++ describeKey key ++ ")"
  | _ => c.name

end Command

end TextCursor
