import TextCursor.Pattern.CharSet
import TextCursor.Pattern.Look

/-!
# Pattern expressions

The structure of a pattern once its flags have been worked into it.
-/

namespace TextCursor.Pattern

/-- A pattern expression. -/
inductive Expr where
  | empty
  | char (set : CharSet)
  | look (l : Look)
  | seq (first second : Expr)
  /-- Either branch, the first one preferred. -/
  | alt (first second : Expr)
  /-- At least `least` times, at most `most` times if there is such a bound, as often as possible
  when `greedy` and as rarely as possible otherwise. -/
  | loop (body : Expr) (least : Nat) (most : Option Nat) (greedy : Bool)

namespace Expr

/-- A lower bound of the number of characters in any match. -/
def minLength : Expr → Nat
  | .empty => 0
  | .char _ => 1
  | .look _ => 0
  | .seq a b => a.minLength + b.minLength
  | .alt a b => min a.minLength b.minLength
  | .loop body least _ _ => body.minLength * least

/-- Whether every match is of the empty text. -/
def isEmptyOnly : Expr → Bool
  | .empty => true
  | .char _ => false
  | .look _ => true
  | .seq a b => a.isEmptyOnly && b.isEmptyOnly
  | .alt a b => a.isEmptyOnly && b.isEmptyOnly
  | .loop body _ most _ => body.isEmptyOnly || most == some 0

/-- A repetition. What matches the empty text only is repeated once at most, since it matches there
again. -/
def repeated (body : Expr) (least : Nat) (most : Option Nat) (greedy : Bool) : Expr :=
  if body.isEmptyOnly then .loop body (min least 1) (some (min (most.getD 1) 1)) greedy
  else .loop body least most greedy

/-- The parts one after another. -/
def sequence : List Expr → Expr
  | [] => .empty
  | [e] => e
  | e :: es => .seq e (sequence es)

/-- One of the branches, an earlier one preferred. -/
def choice : List Expr → Expr
  | [] => .empty
  | [e] => e
  | e :: es => .alt e (choice es)

end Expr

end TextCursor.Pattern
