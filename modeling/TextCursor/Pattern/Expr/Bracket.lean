import TextCursor.Pattern.Expr.Escape

/-!
# Bracketed classes

A class such as `[a-z&&[^b]]` is read with a stack of the brackets that are open. Between two
brackets or operators stand members, which are joined as they are read. Each class comes with the
depth to which it nests, since patterns may nest only so deep.
-/

namespace TextCursor.Pattern

namespace Bracket

/-- An operator between the operands of a class. -/
inductive SetOp where
  | inter
  | diff
  | symmDiff
  deriving DecidableEq, Repr

/-- The set that an operator makes of two. -/
def SetOp.apply : SetOp → CharSet → CharSet → CharSet
  | .inter, a, b => .inter a b
  | .diff, a, b => .diff a b
  | .symmDiff, a, b => .symmDiff a b

/-- A set and the depth to which its written form nests. -/
structure Operand where
  set : CharSet
  depth : Nat

/-- The members read so far of an operand: how many, their union, and their greatest depth. -/
structure Members where
  count : Nat := 0
  set : CharSet := .empty
  depth : Nat := 0

namespace Members

/-- One more member. -/
def push (m : Members) (o : Operand) : Members :=
  ⟨m.count + 1, .union m.set o.set, max m.depth o.depth⟩

/-- The members as one operand. Two or more of them nest one deeper than the deepest. -/
def toOperand (m : Members) : Operand :=
  ⟨m.set, if m.count < 2 then m.depth else m.depth + 1⟩

end Members

/-- A bracket that is open. -/
structure Opened where
  negated : Bool
  /-- What stands before the operator whose right operand is being read. -/
  left : Option (SetOp × Operand)
  /-- The members, in the bracket around, before this one. -/
  outer : Members

/-- The operand with what stands before it. -/
def combine (f : Flags) (left : Option (SetOp × Operand)) (right : Operand) : Operand :=
  match left with
  | none => right
  | some (op, a) => ⟨op.apply (f.fold a.set) (f.fold right.set), max a.depth right.depth + 1⟩

/-! ## Named classes of ASCII -/

/-- The class that a name between `[:` and `:]` stands for. -/
def asciiClass? (name : List Char) : Option CharSet :=
  match String.ofList name with
  | "alnum" => some (.ranges [('0', '9'), ('A', 'Z'), ('a', 'z')])
  | "alpha" => some (.ranges [('A', 'Z'), ('a', 'z')])
  | "ascii" => some (.range '\x00' '\x7F')
  | "blank" => some (.ranges [('\t', '\t'), (' ', ' ')])
  | "cntrl" => some (.ranges [('\x00', '\x1F'), ('\x7F', '\x7F')])
  | "digit" => some (.range '0' '9')
  | "graph" => some (.range '!' '~')
  | "lower" => some (.range 'a' 'z')
  | "print" => some (.range ' ' '~')
  | "punct" => some (.ranges [('!', '/'), (':', '@'), ('[', '\x60'), ('\x7B', '~')])
  | "space" => some (.ranges [('\t', '\r'), (' ', ' ')])
  | "upper" => some (.range 'A' 'Z')
  | "word" => some (.ranges [('0', '9'), ('A', 'Z'), ('_', '_'), ('a', 'z')])
  | "xdigit" => some (.ranges [('0', '9'), ('A', 'F'), ('a', 'f')])
  | _ => none

/-- Reads `:name:]` or `:^name:]`, after a `[`; gives whether it is negated, the class, and the
rest. Where no such name stands, the `[` opens a bracket of its own. -/
def named? (cs : List Char) : Option (Bool × CharSet × List Char) :=
  match cs with
  | ':' :: rest =>
    let (negated, rest) := match rest with
      | '^' :: rest => (true, rest)
      | _ => (false, rest)
    match rest.dropWhile (· != ':') with
    | ':' :: ']' :: after =>
      (asciiClass? (rest.takeWhile (· != ':'))).map fun s => (negated, s, after)
    | _ => none
  | _ => none

/-! ## Members -/

/-- Reads one character or escape. -/
def atom (f : Flags) : List Char → Except SyntaxError (Atom × List Char)
  | [] => .error .unclosedClass
  | '\\' :: cs => Escape.read f cs
  | c :: cs => .ok (.literal c false, cs)

/-- The character that an atom is, as an end of a range. -/
def Atom.rangeEnd (f : Flags) : Atom → Except SyntaxError Char
  | .literal c _ => if f.unicode || c.toNat < 128 then .ok c else .error .needsUnicode
  | _ => .error .badRange

/-- The set that an atom is, as a member. -/
def Atom.member (f : Flags) : Atom → Except SyntaxError CharSet
  | .literal c _ => if f.unicode || c.toNat < 128 then .ok (.single c) else .error .needsUnicode
  | .set s => .ok s
  | .look _ => .error .notAClassMember

/-- Reads a member: an atom, or a range between two. A `-` before a `]` or another `-` forms no
range. -/
def member (f : Flags) (cs : List Char) : Except SyntaxError (CharSet × List Char) := do
  let (a, rest) ← atom f cs
  match f.skip rest with
  | [] => .error .unclosedClass
  | '-' :: after =>
    let next := f.peek after
    if next = some ']' || next = some '-' then return (← Atom.member f a, '-' :: after)
    else
      match f.skip after with
      | [] => .error .unclosedClass
      | after =>
        let (b, rest) ← atom f after
        let first ← Atom.rangeEnd f a
        let last ← Atom.rangeEnd f b
        if first ≤ last then return (.range first last, rest) else .error .badRange
  | rest => return (← Atom.member f a, rest)

/-! ## Brackets -/

/-- Takes each `-` at the start as a member. -/
def leadingDashes (f : Flags) (m : Members) : (fuel : Nat) → List Char → Members × List Char
  | fuel + 1, '-' :: cs => leadingDashes f (m.push ⟨.single '-', 0⟩) fuel (f.skip cs)
  | _, cs => (m, cs)

/-- Reads the start of a bracket, after its `[`: a `^`, each `-`, and a `]` if it comes first. -/
def start (f : Flags) (cs : List Char) : Except SyntaxError (Bool × Members × List Char) :=
  let (negated, cs) := match f.skip cs with
    | '^' :: rest => (true, f.skip rest)
    | rest => (false, rest)
  let (members, cs) := leadingDashes f {} cs.length cs
  let (members, cs) := match cs with
    | ']' :: rest =>
      if members.count = 0 then (members.push ⟨.single ']', 0⟩, f.skip rest) else (members, cs)
    | _ => (members, cs)
  if cs.isEmpty then .error .unclosedClass else .ok (negated, members, cs)

/-- The operator at the start of a text, with the rest. -/
def operator? : List Char → Option (SetOp × List Char)
  | '&' :: '&' :: cs => some (.inter, cs)
  | '-' :: '-' :: cs => some (.diff, cs)
  | '~' :: '~' :: cs => some (.symmDiff, cs)
  | _ => none

/-- Reads on inside the innermost of the open brackets to the end of the outermost. -/
def readOpen (f : Flags) (inner : Opened) (around : List Opened) (members : Members) :
    (fuel : Nat) → List Char → Except SyntaxError (Operand × List Char)
  | 0, _ => .error .unclosedClass
  | fuel + 1, cs =>
    match f.skip cs with
    | [] => .error .unclosedClass
    | '[' :: rest =>
      match named? rest with
      | some (negated, s, rest) => do
        let s ← f.foldAndNegate negated s
        readOpen f inner around (members.push ⟨s, 0⟩) fuel rest
      | none => do
        let (negated, inside, rest) ← start f rest
        readOpen f ⟨negated, none, members⟩ (inner :: around) inside fuel rest
    | ']' :: rest => do
      let whole := combine f inner.left members.toOperand
      let closed : Operand := ⟨← f.foldAndNegate inner.negated whole.set, whole.depth + 1⟩
      match around with
      | [] => return (closed, rest)
      | next :: around => readOpen f next around (inner.outer.push closed) fuel rest
    | cs =>
      match operator? cs with
      | some (op, rest) =>
        let left := combine f inner.left members.toOperand
        readOpen f { inner with left := some (op, left) } around {} fuel rest
      | none => do
        let (s, rest) ← member f cs
        readOpen f inner around (members.push ⟨s, 0⟩) fuel rest

/-- Reads a bracketed class, after its `[`. -/
def read (f : Flags) (cs : List Char) : Except SyntaxError (Operand × List Char) := do
  let (negated, members, rest) ← start f cs
  readOpen f ⟨negated, none, {}⟩ [] members (rest.length + 1) rest

end Bracket

end TextCursor.Pattern
