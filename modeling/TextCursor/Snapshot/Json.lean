import TextCursor.Json.Number
import TextCursor.Json.Skip
import TextCursor.Snapshot

/-!
# Snapshots as JSON

A snapshot is written as an object with the members `text`, `position` and `last_match`, without
space. It is read from any spelling of such an object, in which other members are passed over and
`last_match` may be missing, and from an array of the three values.
-/

namespace TextCursor.Snapshot

open TextCursor.Json

/-! ## Writing -/

/-- The remembered match, as a string or `null`. -/
def writeMatch : Option String → List Char
  | some m => writeString m.toList
  | none => "null".toList

/-- A snapshot in JSON. -/
def toJson (s : Snapshot) : String :=
  String.ofList
    ("\x7B\"text\":".toList ++ writeString s.text.toList
      ++ ",\"position\":".toList ++ Nat.toDigits 10 s.position
      ++ ",\"last_match\":".toList ++ writeMatch s.lastMatch ++ "\x7D".toList)

/-! ## Reading values -/

/-- What is wrong with a value that is not of the kind asked for: it is refused as such once it
has been read, unless it is an array or an object, which are refused at sight. -/
def refuse : List Char → ReadError
  | [] => .truncated
  | c :: cs =>
    let after {α : Type} : Except ReadError (α × List Char) → ReadError
      | .ok _ => .unexpected
      | .error e => e
    if c = 'n' then after (expect ['u', 'l', 'l'] cs)
    else if c = 't' then after (expect ['r', 'u', 'e'] cs)
    else if c = 'f' then after (expect ['a', 'l', 's', 'e'] cs)
    else if c = '-' then after (readNumeral cs)
    else if c.isDigit then after (readNumeral (c :: cs))
    else if c = '"' then after (readString cs)
    else if c = '[' || c = '\x7B' then .unexpected
    else .malformed

/-- Reads a text. -/
def readText (cs : List Char) : Except ReadError (String × List Char) :=
  match skipSpace cs with
  | '"' :: rest => (readString rest).map fun r => (String.ofList r.1, r.2)
  | rest => .error (refuse rest)

/-- Reads a position. -/
def readPosition (cs : List Char) : Except ReadError (Nat × List Char) :=
  match skipSpace cs with
  | [] => .error .truncated
  | c :: rest =>
    if c.isDigit then do
      let (n, rest) ← readNumeral (c :: rest)
      match n.word? with
      | some n => return (n, rest)
      | none => .error .unexpected
    else .error (refuse (c :: rest))

/-- Reads a text or `null`. -/
def readMatch (cs : List Char) : Except ReadError (Option String × List Char) :=
  match skipSpace cs with
  | 'n' :: rest => (expect ['u', 'l', 'l'] rest).map fun r => (none, r.2)
  | rest => (readText rest).map fun r => (some r.1, r.2)

/-! ## Reading objects -/

/-- The members met so far. -/
structure Members where
  text : Option String := none
  position : Option Nat := none
  lastMatch : Option (Option String) := none

/-- The snapshot that the members make up, if none is missing that must be there. -/
def Members.toSnapshot (m : Members) : Except ReadError Snapshot :=
  match m.text, m.position with
  | some text, some position => .ok ⟨text, position, m.lastMatch.getD none⟩
  | _, _ => .error .unexpected

/-- Takes the colon between the name of a member and its value. -/
def readColon (cs : List Char) : Except ReadError (List Char) :=
  match skipSpace cs with
  | [] => .error .truncated
  | ':' :: rest => .ok rest
  | _ => .error .malformed

/-- Reads the value of the member of the given name, with the colon before it. A name that was met
before is refused at once. -/
def readMember (m : Members) (name : String) (cs : List Char) :
    Except ReadError (Members × List Char) :=
  if name = "text" then
    if m.text.isSome then .error .unexpected
    else do
      let (value, rest) ← readText (← readColon cs)
      return ({ m with text := some value }, rest)
  else if name = "position" then
    if m.position.isSome then .error .unexpected
    else do
      let (value, rest) ← readPosition (← readColon cs)
      return ({ m with position := some value }, rest)
  else if name = "last_match" then
    if m.lastMatch.isSome then .error .unexpected
    else do
      let (value, rest) ← readMatch (← readColon cs)
      return ({ m with lastMatch := some value }, rest)
  else do
    let (_, rest) ← skipValue (← readColon cs)
    return (m, rest)

/-- What comes next in an object: the name of a member, of which the opening quote has been
taken, or nothing, and the closing brace has been taken. Either is given by what follows it. -/
inductive Next where
  | name (rest : List Char)
  | nothing (rest : List Char)

/-- Goes to the next name or to the end of an object. -/
def next (first : Bool) (cs : List Char) : Except ReadError Next :=
  match skipSpace cs with
  | [] => .error .truncated
  | '\x7D' :: rest => .ok (.nothing rest)
  | '"' :: rest => if first then .ok (.name rest) else .error .malformed
  | ',' :: rest =>
    if first then .error .malformed
    else
      match skipSpace rest with
      | [] => .error .truncated
      | '"' :: rest => .ok (.name rest)
      | _ => .error .malformed
  | _ => .error .malformed

/-- Reads the members of an object and its closing brace. -/
def readMembers : (fuel : Nat) → (first : Bool) → Members → List Char →
    Except ReadError (Members × List Char)
  | 0, _, _, _ => .error .truncated
  | fuel + 1, first, m, cs => do
    match ← next first cs with
    | .nothing rest => return (m, rest)
    | .name rest => do
      let (name, rest) ← readString rest
      let (m, rest) ← readMember m (String.ofList name) rest
      readMembers fuel false m rest

/-! ## Reading arrays -/

/-- Goes to the next value of an array. -/
def nextValue (first : Bool) (cs : List Char) : Except ReadError (List Char) :=
  match skipSpace cs with
  | [] => .error .truncated
  | ']' :: _ => .error .unexpected
  | c :: rest =>
    if first then .ok (c :: rest)
    else if c = ',' then
      match skipSpace rest with
      | [] => .error .truncated
      | ']' :: _ => .error .malformed
      | rest => .ok rest
    else .error .malformed

/-- Takes the end of an array. -/
def readEnd (cs : List Char) : Except ReadError (List Char) :=
  match skipSpace cs with
  | [] => .error .truncated
  | ']' :: rest => .ok rest
  | _ => .error .malformed

/-- Reads the three values of an array and its closing bracket. -/
def readValues (cs : List Char) : Except ReadError (Snapshot × List Char) := do
  let (text, rest) ← readText (← nextValue true cs)
  let (position, rest) ← readPosition (← nextValue false rest)
  let (lastMatch, rest) ← readMatch (← nextValue false rest)
  return (⟨text, position, lastMatch⟩, ← readEnd rest)

/-! ## Reading snapshots -/

/-- Reads a snapshot. -/
def read (cs : List Char) : Except ReadError (Snapshot × List Char) :=
  match skipSpace cs with
  | '[' :: rest => readValues rest
  | '\x7B' :: rest => do
    let (m, rest) ← readMembers (rest.length + 1) true {} rest
    return (← m.toSnapshot, rest)
  | rest => .error (refuse rest)

/-- The snapshot that a JSON text gives. Nothing but space may follow it. -/
def ofJson (s : String) : Except ReadError Snapshot := do
  let (snapshot, rest) ← read s.toList
  match skipSpace rest with
  | [] => return snapshot
  | _ => .error .malformed

end TextCursor.Snapshot
