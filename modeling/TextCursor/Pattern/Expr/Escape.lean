import TextCursor.Pattern.Flags
import TextCursor.Pattern.PropertyName
import TextCursor.Text.Numeral

/-!
# Escapes

What may follow a `\` in a pattern: a character given by number or by name, a class, or a
condition. The functions take the text after the `\` and give what was read with the rest.
-/

namespace TextCursor.Pattern

/-- What an escape stands for. -/
inductive Atom where
  /-- A character, with whether it was written as a byte of two hexadecimal digits. -/
  | literal (c : Char) (byte : Bool)
  | set (s : CharSet)
  | look (l : Look)

namespace Escape

open Text (hexDigit?)

/-! ## Characters by number -/

/-- The character with a code point, if it is one. -/
def charOfNat (n : Nat) : Except SyntaxError Char :=
  if h : n.isValidChar then .ok (Char.ofNatAux n h) else .error .badCodePoint

/-- Reads exactly so many hexadecimal digits; `value` is that of the digits before them. -/
def fixedHex (f : Flags) : (digits value : Nat) → List Char → Except SyntaxError (Nat × List Char)
  | 0, value, cs => .ok (value, cs)
  | _ + 1, _, [] => .error .badEscape
  | digits + 1, value, c :: cs =>
    match hexDigit? c with
    | some d => fixedHex f digits (16 * value + d) (f.skip cs)
    | none => .error .badEscape

/-- Reads hexadecimal digits up to the closing brace. -/
def bracedHex (f : Flags) (cs : List Char) : Except SyntaxError (Nat × List Char) :=
  match f.collect (fun c => (hexDigit? c).isSome) cs with
  | (digits, '}' :: rest) =>
    if digits.isEmpty then .error .badEscape
    else .ok (digits.foldl (fun n c => 16 * n + (hexDigit? c).getD 0) 0, f.skip rest)
  | _ => .error .badEscape

/-- Reads a character given in hexadecimal, after the letter that announces so many digits. -/
def hexLiteral (f : Flags) (letter : Char) (cs : List Char) :
    Except SyntaxError (Atom × List Char) := do
  let digits := if letter = 'x' then 2 else if letter = 'u' then 4 else 8
  match f.skip cs with
  | [] => .error .badEscape
  | '{' :: rest =>
    let (n, rest) ← bracedHex f rest
    return (.literal (← charOfNat n) false, rest)
  | rest =>
    let (n, rest) ← fixedHex f digits 0 rest
    return (.literal (← charOfNat n) (letter = 'x'), rest)

/-! ## Classes -/

/-- Reads a class by Unicode property, after the letter `p` or `P`. -/
def propertyClass (f : Flags) (negated : Bool) (cs : List Char) :
    Except SyntaxError (CharSet × List Char) := do
  let (found?, rest) ← match f.skip cs with
    | [] => .error .badEscape
    | '{' :: rest =>
      match f.collect (· != '}') rest with
      | (name, '}' :: rest) => .ok (query? name, rest)
      | _ => .error .badEscape
    | c :: rest =>
      if c = '\\' then .error .unknownProperty
      else .ok ((namedSet? [c]).map (⟨false, ·⟩), f.skip rest)
  if !f.unicode then .error .needsUnicode
  else
    match found? with
    | some q => return (← f.foldAndNegate (negated != q.negated) q.set, rest)
    | none => .error .unknownProperty

/-- The set of a class letter in small form, under Unicode or in ASCII. -/
def letterClass? (unicode : Bool) : Char → Option CharSet
  | 'd' => some (if unicode then .decimal else .range '0' '9')
  | 's' => some (if unicode then .blank else .ranges [('\t', '\r'), (' ', ' ')])
  | 'w' =>
    some (if unicode then .word
      else .ranges [('0', '9'), ('A', 'Z'), ('a', 'z'), ('_', '_')])
  | _ => none

/-! ## Conditions -/

/-- Whether the character may stand in the name of a word edge. -/
def isEdgeNameChar (c : Char) : Bool :=
  c.isAlpha || c == '-'

/-- The word edge with a given name. -/
def edgeNamed? (name : List Char) : Option WordEdge :=
  if name == "start".toList then some .start
  else if name == "end".toList then some .finish
  else if name == "start-half".toList then some .startHalf
  else if name == "end-half".toList then some .finishHalf
  else none

/-- Reads what follows `\b`: a named edge in braces, or nothing that belongs to it. A brace that
no name can follow is left for a counted repetition. -/
def wordEdge (f : Flags) (cs : List Char) : Except SyntaxError (WordEdge × List Char) :=
  match cs with
  | '{' :: rest =>
    match f.skip rest with
    | [] => .error .badWordEdge
    | c :: _ =>
      if isEdgeNameChar c then
        match f.collect isEdgeNameChar rest with
        | (name, '}' :: rest) =>
          match edgeNamed? name with
          | some edge => .ok (edge, rest)
          | none => .error .badWordEdge
        | _ => .error .badWordEdge
      else .ok (.boundary, cs)
  | _ => .ok (.boundary, cs)

/-! ## All escapes -/

/-- Whether an escape of the character stands for the character itself: all of ASCII but letters,
digits, `<` and `>`. -/
def standsForItself (c : Char) : Bool :=
  c.toNat < 128 && !c.isAlphanum && c != '<' && c != '>'

/-- The control character that a letter stands for. -/
def control? : Char → Option Char
  | 'a' => some '\x07'
  | 'f' => some '\x0C'
  | 't' => some '\t'
  | 'n' => some '\n'
  | 'r' => some '\r'
  | 'v' => some '\x0B'
  | _ => none

/-- Reads an escape, after its `\`. -/
def read (f : Flags) : List Char → Except SyntaxError (Atom × List Char)
  | [] => .error .badEscape
  | c :: cs =>
    let word (edge : WordEdge) : Atom := .look (.word edge (!f.unicode))
    if c.isDigit then .error .backreference
    else if c = 'x' || c = 'u' || c = 'U' then hexLiteral f c cs
    else if c = 'p' || c = 'P' then do
      let (s, rest) ← propertyClass f (c = 'P') cs
      return (.set s, rest)
    else
      match letterClass? f.unicode c.toLower with
      | some s => do
        if c.isUpper then
          if f.unicode then return (.set (.compl s), cs) else .error .splitsCharacters
        else return (.set s, cs)
      | none =>
        if standsForItself c then .ok (.literal c false, cs)
        else
          match control? c with
          | some d => .ok (.literal d false, cs)
          | none =>
            match c with
            | 'A' => .ok (.look .textStart, cs)
            | 'z' => .ok (.look .textEnd, cs)
            | 'b' => do
              let (edge, rest) ← wordEdge f cs
              return (word edge, rest)
            | 'B' => .ok (word .noBoundary, cs)
            | '<' => .ok (word .start, cs)
            | '>' => .ok (word .finish, cs)
            | _ => .error .badEscape

end Escape

end TextCursor.Pattern
