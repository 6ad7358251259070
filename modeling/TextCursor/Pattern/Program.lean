import TextCursor.Pattern.Expr

/-!
# Programs

A pattern expression as a program: instructions that name the instructions to go on with, in
order of preference. Programs are laid out from the end of the pattern to its start, so each part
is told where to go on after it and tells where it begins; only a loop, which must name itself,
sets aside a place first and fills it later.
-/

namespace TextCursor.Pattern

/-- One instruction. The numbers are places in the program. -/
inductive Instr where
  /-- Takes one character of the set. -/
  | take (set : CharSet) (next : Nat)
  /-- Goes on if the condition holds. -/
  | look (l : Look) (next : Nat)
  /-- Goes on in two ways, the first preferred. -/
  | split (first second : Nat)
  /-- Reports a match. -/
  | accept

/-- Goes on in two ways, `more` preferred when greedy. -/
def Instr.fork (greedy : Bool) (more done : Nat) : Instr :=
  if greedy then .split more done else .split done more

/-- A program under construction, or a whole one. -/
abbrev Code := Array Instr

namespace Code

/-- Adds an instruction and gives its place. -/
def add (code : Code) (i : Instr) : Nat × Code :=
  (code.size, code.push i)

end Code

/-- A part of a program still to be laid out: given where to go on after it and the code so far,
it gives the place where it begins and the code with it. -/
abbrev Fragment := (next : Nat) → Code → Nat × Code

namespace Fragment

/-- The fragment so many times, one after another. -/
def times (body : Fragment) : Nat → Fragment
  | 0, next, code => (next, code)
  | n + 1, next, code =>
    let (start, code) := times body n next code
    body start code

/-- The fragment at most so many times; whichever repetition is the last, it goes on at the same
place. -/
def atMost (body : Fragment) (greedy : Bool) : Nat → Fragment
  | 0, next, code => (next, code)
  | n + 1, next, code =>
    let (more, code) := atMost body greedy n next code
    let (start, code) := body more code
    code.add (.fork greedy start next)

/-- The fragment over and over, at least once. The place set aside decides after each time. -/
def oneOrMore (body : Fragment) (greedy : Bool) : Fragment := fun next code =>
  let again := code.size
  let (start, code) := body again (code.push .accept)
  (start, code.setIfInBounds again (.fork greedy start next))

/-- The fragment over and over, or not at all. The place set aside decides before each time. -/
def zeroOrMore (body : Fragment) (greedy : Bool) : Fragment := fun next code =>
  let again := code.size
  let (start, code) := body again (code.push .accept)
  (again, code.setIfInBounds again (.fork greedy start next))

end Fragment

open Fragment in
/-- Lays out an expression. A body that can match the empty text is repeated by deciding once
whether to enter it and then after each time, so that an empty repetition counts as one. -/
def Expr.emit : Expr → Fragment
  | .empty => fun next code => (next, code)
  | .char set => fun next code => code.add (.take set next)
  | .look l => fun next code => code.add (.look l next)
  | .seq a b => fun next code =>
    let (middle, code) := b.emit next code
    a.emit middle code
  | .alt a b => fun next code =>
    let (second, code) := b.emit next code
    let (first, code) := a.emit next code
    code.add (.split first second)
  | .loop body least most greedy => fun next code =>
    match most, least with
    | some most, least =>
      let (optional, code) := atMost body.emit greedy (most - least) next code
      times body.emit least optional code
    | none, 0 =>
      if body.minLength = 0 then atMost (oneOrMore body.emit greedy) greedy 1 next code
      else zeroOrMore body.emit greedy next code
    | none, least + 1 =>
      let (last, code) := oneOrMore body.emit greedy next code
      times body.emit least last code

/-- A program: the instructions and the place where it begins. -/
structure Program where
  code : Code
  start : Nat

/-- The program of an expression. -/
def Expr.compile (e : Expr) : Program :=
  let (start, code) := e.emit 0 #[.accept]
  ⟨code, start⟩

end TextCursor.Pattern
