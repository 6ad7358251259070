import TextCursor.Snapshot

/-!
# Actions

Everything that can be done with a cursor, as data: the actions, what each answers, and runs of
several. An action that replaces the cursor leaves the old one where it fails.
-/

namespace TextCursor.Cursor

/-- Something to do with a cursor. -/
inductive Action where
  | attempt (pattern : String) (options : MatchOptions)
  | search (op : MatchOp) (pattern : String)
  | unscan
  | getch
  | append (suffix : String)
  | peek (n : Nat)
  | item (index : Int64)
  | slice (start stop step : Option Int64)
  /-- Looks up a key that is given as a text. -/
  | get (key : String)
  | current
  | text
  | length
  | describe
  | snapshot
  /-- Replaces the cursor by one restored from its own snapshot. -/
  | reload
  /-- Replaces the cursor by one restored from a snapshot. -/
  | restore (s : Snapshot)
  deriving DecidableEq, Repr

/-- What an action answers. -/
inductive Answer where
  | matched (r : MatchResult)
  | char (c : Char)
  | text (s : String)
  /-- The character at the cursor, if there is one. -/
  | current (c : Option Char)
  | length (n : Nat) (empty : Bool)
  | snapshot (s : Snapshot)
  | nothing
  deriving DecidableEq, Repr

/-- Puts another cursor in the place of one, if there is another. -/
def replaceBy (c : Cursor) : Except ScanError Cursor → Op Answer
  | .ok c' => .done .nothing c'
  | .error e => .fail e c

/-- Performs an action. -/
def perform (c : Cursor) : Action → Op Answer
  | .attempt pattern options => (c.attempt pattern options).map .matched
  | .search op pattern => (c.search op pattern).map .matched
  | .unscan => c.unscan.map fun _ => .nothing
  | .getch => c.getch.map .char
  | .append suffix => .done .nothing (c.append suffix)
  | .peek n => .done (.text (c.peek n)) c
  | .item index => .ofExcept ((c.item index).map .char) c
  | .slice start stop step => .ofExcept ((c.slice start stop step).map .text) c
  | .get key =>
    match Key.ofText? key with
    | some k => .ofExcept ((c.get k).map .text) c
    | none => .fail (.invalidKey key) c
  | .current => .done (.current c.current?) c
  | .text => .done (.text c.text) c
  | .length => .done (.length c.text.length c.text.isEmpty) c
  | .describe => .done (.text c.describe) c
  | .snapshot => .done (.snapshot c.snapshot) c
  | .reload => c.replaceBy (restore c.snapshot)
  | .restore s => c.replaceBy (restore s)

/-- Performs actions one after another, whether they fail or not. -/
def performAll (c : Cursor) : List Action → List (Op Answer)
  | [] => []
  | a :: as =>
    let e := c.perform a
    e :: e.after.performAll as

/-- The cursor after some actions. -/
def runAll (c : Cursor) (actions : List Action) : Cursor :=
  actions.foldl (fun c a => (c.perform a).after) c

theorem runAll_cons (c : Cursor) (a : Action) (as : List Action) :
    c.runAll (a :: as) = (c.perform a).after.runAll as := rfl

end TextCursor.Cursor
