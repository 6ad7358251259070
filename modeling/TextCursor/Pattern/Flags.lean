import TextCursor.Pattern.Expr
import TextCursor.Pattern.SyntaxError

/-!
# Flags

The flags under which a part of a pattern is read, the letters that switch them, and what they
mean for the reading: which characters of the pattern are insignificant, and how literals and
classes take in case variants.
-/

namespace TextCursor.Pattern

/-- Something that a flag group such as `(?i-s)` switches on or off. -/
inductive Flag where
  | ignoreCase
  | multiLine
  | dotAll
  | swapGreed
  | unicode
  | anyLineEnd
  | extended
  deriving DecidableEq, Repr

/-- The flag that a letter stands for. -/
def Flag.ofLetter? : Char → Option Flag
  | 'i' => some .ignoreCase
  | 'm' => some .multiLine
  | 's' => some .dotAll
  | 'U' => some .swapGreed
  | 'u' => some .unicode
  | 'R' => some .anyLineEnd
  | 'x' => some .extended
  | _ => none

/-- The flags in force at a place in a pattern. -/
structure Flags where
  /-- Letters match in either case. -/
  ignoreCase : Bool := false
  /-- `^` and `$` match at line ends too. -/
  multiLine : Bool := false
  /-- `.` matches line ends too. -/
  dotAll : Bool := false
  /-- Repetitions are lazy, and greedy when marked with `?`. -/
  swapGreed : Bool := false
  /-- Classes and word edges go by Unicode; when off, by ASCII. -/
  unicode : Bool := true
  /-- `\r` and `\r\n` end lines as `\n` does. -/
  anyLineEnd : Bool := false
  /-- Blank characters and comments in the pattern are insignificant. -/
  extended : Bool := false
  deriving DecidableEq, Repr

namespace Flags

/-- The flags with one switched. -/
def set (f : Flags) (on : Bool) : Flag → Flags
  | .ignoreCase => { f with ignoreCase := on }
  | .multiLine => { f with multiLine := on }
  | .dotAll => { f with dotAll := on }
  | .swapGreed => { f with swapGreed := on }
  | .unicode => { f with unicode := on }
  | .anyLineEnd => { f with anyLineEnd := on }
  | .extended => { f with extended := on }

/-! ## Insignificant characters -/

/-- The text from its first character on that is neither blank nor in a comment; the argument
tells whether the text begins in a comment. -/
def skipVerbose : (inComment : Bool) → List Char → List Char
  | _, [] => []
  | true, c :: cs => skipVerbose (c != '\n') cs
  | false, c :: cs =>
    if Text.isBlank c then skipVerbose false cs
    else if c = '#' then skipVerbose true cs
    else c :: cs

/-- The text from its first significant character on. -/
def skip (f : Flags) (cs : List Char) : List Char :=
  if f.extended then skipVerbose false cs else cs

/-- Collects the significant characters up to the first that fails the test. -/
def collectVerbose (p : Char → Bool) : (inComment : Bool) → List Char → List Char × List Char
  | _, [] => ([], [])
  | true, c :: cs => collectVerbose p (c != '\n') cs
  | false, c :: cs =>
    if Text.isBlank c then collectVerbose p false cs
    else if c = '#' then collectVerbose p true cs
    else if p c then
      let (taken, rest) := collectVerbose p false cs
      (c :: taken, rest)
    else ([], c :: cs)

/-- The longest run of significant characters that pass the test, and what follows it. -/
def collect (f : Flags) (p : Char → Bool) (cs : List Char) : List Char × List Char :=
  if f.extended then collectVerbose p false cs else (cs.takeWhile p, cs.dropWhile p)

/-- The character that decides whether a `-` forms a range, given what follows the `-`. In a
verbose pattern the blanks before it do not count, nor does one `#` with the blanks after it. -/
def peek (f : Flags) (cs : List Char) : Option Char :=
  if f.extended then
    let seen := match cs.dropWhile Text.isBlank with
      | '#' :: r => r.dropWhile Text.isBlank
      | r => r
    seen.head? <|> cs.head?
  else cs.head?

/-! ## What flags mean for sets -/

/-- The set as it is meant under the flags: with case variants when case is ignored. -/
def fold (f : Flags) (s : CharSet) : CharSet :=
  if f.ignoreCase then (if f.unicode then .foldCase s else .foldAsciiCase s) else s

/-- A set as written in brackets, with a `^` before it or not. A complement that is not confined
to Unicode text could match part of a character, and is refused. -/
def foldAndNegate (f : Flags) (negated : Bool) (s : CharSet) : Except SyntaxError CharSet :=
  if negated then
    if f.unicode then .ok (.compl (f.fold s)) else .error .splitsCharacters
  else .ok (f.fold s)

/-- The set of characters that a literal character matches. -/
def literal (f : Flags) (c : Char) : CharSet :=
  f.fold (.single c)

/-- The set that `.` stands for. -/
def dot (f : Flags) : Except SyntaxError CharSet :=
  if !f.unicode then .error .splitsCharacters
  else if f.dotAll then .ok .any
  else if f.anyLineEnd then .ok (.compl (.union (.single '\r') (.single '\n')))
  else .ok (.compl (.single '\n'))

/-- The condition that `^` stands for. -/
def caret (f : Flags) : Look :=
  if f.multiLine then (if f.anyLineEnd then .anyLineStart else .lineStart) else .textStart

/-- The condition that `$` stands for. -/
def dollar (f : Flags) : Look :=
  if f.multiLine then (if f.anyLineEnd then .anyLineEnd else .lineEnd) else .textEnd

/-! ## Flag groups -/

/-- Reads flag letters up to the `:` or `)` that ends them, given the flags met so far and
whether a `-` was met before, and whether just before. Gives the flags after the switches, whether
there were any, the character that ended them, and the rest. -/
def switchAll (f : Flags) (met : List Flag) (negated dangling : Bool) :
    List Char → Except SyntaxError (Flags × Bool × Char × List Char)
  | [] => .error .badFlags
  | c :: cs =>
    if c = ':' || c = ')' then
      if dangling then .error .badFlags else .ok (f, !met.isEmpty, c, cs)
    else if c = '-' then
      if negated then .error .badFlags else switchAll f met true true cs
    else
      match Flag.ofLetter? c with
      | none => .error .badFlags
      | some flag =>
        if met.contains flag then .error .badFlags
        else switchAll (f.set (!negated) flag) (flag :: met) negated false cs

end Flags

end TextCursor.Pattern
