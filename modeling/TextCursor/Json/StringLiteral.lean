import TextCursor.Json.ReadError
import TextCursor.Text.Numeral

/-!
# JSON strings

Writing a text between double quotes with the fewest escapes, and reading any spelling of it:
characters as themselves, the short escapes, and code units in hexadecimal, of which two may stand
for one character.
-/

namespace TextCursor.Json

open Text (hexDigit?)

/-! ## Writing -/

/-- A character inside a string: quotes, backslashes and control characters are escaped. -/
def writeChar (c : Char) : List Char :=
  if c = '"' then ['\\', '"']
  else if c = '\\' then ['\\', '\\']
  else if c = '\x08' then ['\\', 'b']
  else if c = '\x0C' then ['\\', 'f']
  else if c = '\n' then ['\\', 'n']
  else if c = '\r' then ['\\', 'r']
  else if c = '\t' then ['\\', 't']
  else if c < ' ' then
    ['\\', 'u', '0', '0', Nat.digitChar (c.toNat / 16), Nat.digitChar (c.toNat % 16)]
  else [c]

/-- A text as a string. -/
def writeString (cs : List Char) : List Char :=
  '"' :: cs.flatMap writeChar ++ ['"']

/-! ## Escapes -/

/-- The value of four hexadecimal digits. -/
def hexUnit? (a b c d : Char) : Option Nat := do
  return (((← hexDigit? a) * 16 + (← hexDigit? b)) * 16 + (← hexDigit? c)) * 16 + (← hexDigit? d)

/-- Reads a code unit of four hexadecimal digits. The text counts as ending too early only if it
has fewer than four bytes left. -/
def readUnit : List Char → Except ReadError (Nat × List Char)
  | a :: b :: c :: d :: rest =>
    match hexUnit? a b c d with
    | some n => .ok (n, rest)
    | none => .error .malformed
  | cs => if (String.ofList cs).utf8ByteSize < 4 then .error .truncated else .error .malformed

/-- Whether the code unit is the first of a pair. -/
def isLeading (n : Nat) : Bool := 0xD800 ≤ n && n ≤ 0xDBFF

/-- Whether the code unit is the second of a pair. -/
def isTrailing (n : Nat) : Bool := 0xDC00 ≤ n && n ≤ 0xDFFF

/-- Reads the second code unit of a pair, of which the first has been read. -/
def readTrailing (first : Nat) : List Char → Except ReadError (Char × List Char)
  | [] => .error .truncated
  | '\\' :: 'u' :: cs => do
    let (second, rest) ← readUnit cs
    if isTrailing second then
      return (Char.ofNat (0x10000 + (first - 0xD800) * 0x400 + (second - 0xDC00)), rest)
    else .error .malformed
  | ['\\'] => .error .truncated
  | _ => .error .malformed

/-- The character that a short escape stands for. -/
def shortEscape? : Char → Option Char
  | '"' => some '"'
  | '\\' => some '\\'
  | '/' => some '/'
  | 'b' => some '\x08'
  | 'f' => some '\x0C'
  | 'n' => some '\n'
  | 'r' => some '\r'
  | 't' => some '\t'
  | _ => none

/-- Reads an escape, after its backslash, as the character it stands for. -/
def readEscape : List Char → Except ReadError (List Char × List Char)
  | [] => .error .truncated
  | 'u' :: cs => do
    let (n, rest) ← readUnit cs
    if isTrailing n then .error .malformed
    else if isLeading n then
      let (c, rest) ← readTrailing n rest
      return ([c], rest)
    else return ([Char.ofNat n], rest)
  | c :: cs =>
    match shortEscape? c with
    | some d => .ok ([d], cs)
    | none => .error .malformed

/-- Passes over an escape, after its backslash. Code units need not be paired here. -/
def skipEscape : List Char → Except ReadError (List Char × List Char)
  | [] => .error .truncated
  | 'u' :: cs => do
    let (_, rest) ← readUnit cs
    return ([], rest)
  | c :: cs => if (shortEscape? c).isSome then .ok ([], cs) else .error .malformed

/-! ## Reading -/

/-- Reads the characters of a string and its closing quote. Each step takes a character. -/
def readChars (escape : List Char → Except ReadError (List Char × List Char)) :
    (fuel : Nat) → List Char → Except ReadError (List Char × List Char)
  | 0, _ => .error .truncated
  | _ + 1, [] => .error .truncated
  | fuel + 1, c :: cs =>
    if c = '"' then .ok ([], cs)
    else if c = '\\' then do
      let (taken, rest) ← escape cs
      let (more, rest) ← readChars escape fuel rest
      return (taken ++ more, rest)
    else if c < ' ' then .error .malformed
    else do
      let (more, rest) ← readChars escape fuel cs
      return (c :: more, rest)

/-- Reads a string, after its opening quote. -/
def readString (cs : List Char) : Except ReadError (List Char × List Char) :=
  readChars readEscape cs.length cs

/-- Passes over a string, after its opening quote. -/
def skipString (cs : List Char) : Except ReadError (List Char × List Char) :=
  readChars skipEscape cs.length cs

end TextCursor.Json
