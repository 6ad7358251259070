import TextCursor.Pattern.Expr.Bracket
import TextCursor.Unicode.Version17

/-!
# Reading a pattern

A pattern is read from left to right with a stack of the groups that are open. Each step takes at
least one character: an item that joins the branch under way, a `|` that ends the branch, a `(`
that opens a group, a `)` that closes one, or a repetition of the latest item.

`Expr.parse` is the whole reading. A pattern that nests deeper than `depthLimit` is refused.
-/

namespace TextCursor.Pattern

namespace Expr

/-- An expression and the depth to which its written form nests. -/
structure Part where
  expr : Expr
  depth : Nat

/-- An item of a branch. -/
inductive Item where
  | part (p : Part)
  /-- A flag group such as `(?i)`, which matches the empty text and cannot be repeated. -/
  | flags

/-- The expression of an item. -/
def Item.toPart : Item → Part
  | .part p => p
  | .flags => ⟨.empty, 0⟩

/-- Items one after another, the latest first. Two or more nest one deeper than the deepest. -/
def ofItems (items : List Item) : Part :=
  let parts := (items.map Item.toPart).reverse
  let deepest := (parts.map (·.depth)).foldl max 0
  ⟨sequence (parts.map (·.expr)), if parts.length < 2 then deepest else deepest + 1⟩

/-- Branches of which one is taken, the latest first. Two or more nest one deeper than the
deepest. -/
def ofBranches (branches : List Part) : Part :=
  let parts := branches.reverse
  let deepest := (parts.map (·.depth)).foldl max 0
  ⟨choice (parts.map (·.expr)), if parts.length < 2 then deepest else deepest + 1⟩

/-- A group that is open: the flags in force around it, and what came before it in the group
around, the latest first. -/
structure Group where
  flags : Flags
  branches : List Part
  items : List Item

/-- How far the reading has come. -/
structure Reading where
  flags : Flags := {}
  /-- The earlier branches of the innermost open group, the latest first. -/
  branches : List Part := []
  /-- The items of the branch under way, the latest first. -/
  items : List Item := []
  around : List Group := []
  /-- The names of groups. -/
  names : List (List Char) := []

namespace Reading

/-- The branches read so far as one expression. -/
def close (r : Reading) : Part :=
  ofBranches (ofItems r.items :: r.branches)

/-- One more item. -/
def push (r : Reading) (e : Expr) (depth : Nat) : Reading :=
  { r with items := .part ⟨e, depth⟩ :: r.items }

/-- Enters a group under the given flags. -/
def enter (r : Reading) (flags : Flags) : Reading :=
  { r with
    flags
    branches := []
    items := []
    around := ⟨r.flags, r.branches, r.items⟩ :: r.around }

/-- Leaves the innermost open group. -/
def leave (r : Reading) : Except SyntaxError Reading :=
  match r.around with
  | [] => .error .unopenedGroup
  | g :: around =>
    let inside := r.close
    .ok { r with
      flags := g.flags
      branches := g.branches
      items := .part ⟨inside.expr, inside.depth + 1⟩ :: g.items
      around }

/-! ## Groups -/

/-- Whether the character may stand in the name of a group, first or later. -/
def isNameChar (first : Bool) (c : Char) : Bool :=
  if first then c == '_' || Unicode.Version17.isAlphabetic c
  else
    c == '_' || c == '.' || c == '[' || c == ']'
      || Unicode.Version17.isAlphabetic c || Unicode.Version17.isNumber c

/-- Reads the name of a group and its `>`. -/
def groupName (cs : List Char) : Except SyntaxError (List Char × List Char) :=
  match cs.takeWhile (· != '>'), cs.dropWhile (· != '>') with
  | c :: more, '>' :: rest =>
    if isNameChar true c && more.all (isNameChar false) then .ok (c :: more, rest)
    else .error .badGroupName
  | _, _ => .error .badGroupName

/-- Opens a group with a name. -/
def openNamed (r : Reading) (cs : List Char) : Except SyntaxError (Reading × List Char) := do
  let (name, rest) ← groupName cs
  if r.names.contains name then .error .duplicateGroupName
  else return ({ r.enter r.flags with names := name :: r.names }, rest)

/-- Reads what follows a `(`: the start of a group, or a whole flag group. -/
def openGroup (r : Reading) (cs : List Char) : Except SyntaxError (Reading × List Char) :=
  match r.flags.skip cs with
  | '?' :: '=' :: _ | '?' :: '!' :: _ | '?' :: '<' :: '=' :: _ | '?' :: '<' :: '!' :: _ =>
    .error .lookAround
  | '?' :: 'P' :: '<' :: rest | '?' :: '<' :: rest => r.openNamed rest
  | '?' :: rest => do
    let (flags, any, last, rest) ← r.flags.switchAll [] false false rest
    if last = ':' then return (r.enter flags, rest)
    else if any then return ({ r with flags, items := .flags :: r.items }, rest)
    else .error .nothingToRepeat
  | rest => .ok (r.enter r.flags, rest)

/-! ## Repetitions -/

/-- Takes the `?` that turns the greed of a repetition round; gives the greed. -/
def greed (r : Reading) (cs : List Char) : Bool × List Char :=
  match cs with
  | '?' :: rest => (r.flags.swapGreed, rest)
  | _ => (!r.flags.swapGreed, cs)

/-- Repeats the latest item. -/
def repeatLast (r : Reading) (least : Nat) (most : Option Nat) (greedy : Bool) :
    Except SyntaxError Reading :=
  match r.items with
  | .part p :: items =>
    .ok { r with items := .part ⟨.repeated p.expr least most greedy, p.depth + 1⟩ :: items }
  | _ => .error .nothingToRepeat

/-- The greatest count that a repetition may give. -/
def countLimit : Nat := Nat.pow 2 32 - 1

/-- Reads a decimal count, with blanks around it; `none` if there are no digits. -/
def count (f : Flags) (cs : List Char) : Except SyntaxError (Option Nat × List Char) :=
  let (digits, rest) := f.collect Char.isDigit (cs.dropWhile Text.isBlank)
  let rest := rest.dropWhile Text.isBlank
  let n := digits.foldl (fun n c => 10 * n + (c.toNat - '0'.toNat)) 0
  if digits.isEmpty then .ok (none, rest)
  else if n ≤ countLimit then .ok (some n, rest)
  else .error .badCount

/-- Reads the counts of a repetition, after its `{`, and the `}`. -/
def counts (f : Flags) (cs : List Char) :
    Except SyntaxError (Nat × Option Nat × List Char) := do
  match ← count f (f.skip cs) with
  | (none, _) => .error .badCount
  | (some least, '}' :: rest) => return (least, some least, rest)
  | (some least, ',' :: rest) =>
    match f.skip rest with
    | '}' :: rest => return (least, none, rest)
    | rest =>
      match ← count f rest with
      | (some most, '}' :: rest) =>
        if least ≤ most then return (least, some most, rest) else .error .badCount
      | _ => .error .badCount
  | _ => .error .badCount

/-- Reads a counted repetition, after its `{`. -/
def countedRepeat (r : Reading) (cs : List Char) : Except SyntaxError (Reading × List Char) := do
  let (least, most, rest) ← counts r.flags cs
  let (greedy, rest) := r.greed (r.flags.skip rest)
  return (← r.repeatLast least most greedy, rest)

/-- Reads a repetition by `?`, `*` or `+`, after that character. -/
def signRepeat (r : Reading) (least : Nat) (most : Option Nat) (cs : List Char) :
    Except SyntaxError (Reading × List Char) := do
  let (greedy, rest) := r.greed cs
  return (← r.repeatLast least most greedy, rest)

/-! ## Steps -/

/-- Reads an escape as an item, after its `\`. -/
def escape (r : Reading) (cs : List Char) : Except SyntaxError (Reading × List Char) := do
  let (a, rest) ← Escape.read r.flags cs
  match a with
  | .literal c byte =>
    if byte && !r.flags.unicode && 128 ≤ c.toNat then .error .splitsCharacters
    else return (r.push (.char (r.flags.literal c)) 0, rest)
  | .set s => return (r.push (.char s) 0, rest)
  | .look l => return (r.push (.look l) 0, rest)

/-- One step, on a significant character. -/
def step (r : Reading) (c : Char) (cs : List Char) : Except SyntaxError (Reading × List Char) :=
  match c with
  | '(' => r.openGroup cs
  | ')' => return (← r.leave, cs)
  | '|' => .ok ({ r with branches := ofItems r.items :: r.branches, items := [] }, cs)
  | '[' => do
    let (o, rest) ← Bracket.read r.flags cs
    return (r.push (.char o.set) o.depth, rest)
  | '?' => r.signRepeat 0 (some 1) cs
  | '*' => r.signRepeat 0 none cs
  | '+' => r.signRepeat 1 none cs
  | '\x7B' => r.countedRepeat cs
  | '\\' => r.escape cs
  | '.' => return (r.push (.char (← r.flags.dot)) 0, cs)
  | '^' => .ok (r.push (.look r.flags.caret) 0, cs)
  | '$' => .ok (r.push (.look r.flags.dollar) 0, cs)
  | c => .ok (r.push (.char (r.flags.literal c)) 0, cs)

/-- Reads to the end. -/
def readAll (r : Reading) : (fuel : Nat) → List Char → Except SyntaxError Reading
  | 0, _ => .error .tooDeep
  | fuel + 1, cs =>
    match r.flags.skip cs with
    | [] => .ok r
    | c :: rest =>
      match r.step c rest with
      | .ok (r, rest) => readAll r fuel rest
      | .error e => .error e

end Reading

/-- How deep the parts of a pattern may nest. -/
def depthLimit : Nat := 250

/-- Reads a pattern. -/
def parse (cs : List Char) : Except SyntaxError Expr := do
  let r ← Reading.readAll {} (cs.length + 1) cs
  if !r.around.isEmpty then .error .unclosedGroup
  else
    let whole := r.close
    if depthLimit < whole.depth then .error .tooDeep else return whole.expr

end Expr

end TextCursor.Pattern
