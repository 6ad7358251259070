import TextCursor.Effect
import TextCursor.Lookup
import TextCursor.Pattern.Cache

/-!
# Cursors

A cursor stands at a position of a text and moves over it by matching patterns. It remembers what
it matched last, so that one step can be taken back, and the patterns that it has compiled, so
that each is compiled once.

The position is kept twice: as a number of characters, which is what callers see, and as an offset
in bytes, by which the rest of the text is found. `Cursor.WF` says that the two agree.
-/

namespace TextCursor

/-- A position in a text, with what was matched last and the patterns compiled so far. -/
structure Cursor where
  text : String
  /-- How many characters lie behind the cursor. -/
  position : Nat
  /-- How many bytes lie behind the cursor. -/
  offset : String.Pos.Raw
  /-- What the latest matching operation matched, unless it has been taken back. -/
  matched : Option String
  patterns : Pattern.Cache

namespace Cursor

/-- What an operation on a cursor gives. -/
abbrev Op (α : Type) := Effect Cursor ScanError α

/-! ## Making cursors -/

/-- A cursor at the start of a text. -/
def new (text : String) : Cursor :=
  ⟨text, 0, 0, none, .empty⟩

/-- How many bytes the first so many characters take, if there are so many. -/
def bytesOfFirst? : Nat → List Char → Option Nat
  | 0, _ => some 0
  | _ + 1, [] => none
  | n + 1, c :: cs => (bytesOfFirst? n cs).map (c.utf8Size + ·)

/-- The greatest position that an error names. -/
def greatestIndex : Nat := Text.signedLimit - 1

/-- A cursor at a position of a text, if the text has that position. -/
def newAt (text : String) (position : Nat) : Except ScanError Cursor :=
  match bytesOfFirst? position text.toList with
  | some bytes => .ok { new text with position, offset := ⟨bytes⟩ }
  | none => .error (.outOfRange (min position greatestIndex) text.length)

/-! ## What a cursor shows -/

/-- The text from the cursor on. -/
def rest (c : Cursor) : String :=
  String.Pos.Raw.extract c.text c.offset c.text.rawEndPos

/-- The character at the cursor. -/
def current? (c : Cursor) : Option Char :=
  c.rest.toList.head?

/-- Whether nothing lies ahead. -/
def atEnd (c : Cursor) : Bool :=
  c.offset == c.text.rawEndPos

/-- So many characters after the one at the cursor, or as many as there are. -/
def peek (c : Cursor) (n : Nat) : String :=
  String.ofList ((c.rest.toList.drop 1).take n)

/-- The character of the text at a place. -/
def item (c : Cursor) (index : Int64) : Except ScanError Char :=
  Lookup.charAt c.text index

/-- A slice of the text. -/
def slice (c : Cursor) (start stop step : Option Int64) : Except ScanError String :=
  Lookup.slice c.text start stop step

/-- What a key gives of the text. -/
def get (c : Cursor) (key : Key) : Except ScanError String :=
  Lookup.get c.text key

/-- How many characters of the text a description shows. -/
def shownLength : Nat := 30

/-- A short description. A long text is cut. -/
def describe (c : Cursor) : String :=
  let shown :=
    if shownLength < c.text.length then
      String.ofList (c.text.toList.take shownLength) ++ "..."
    else c.text
  "<StringScanner: position=" ++ toString c.position ++ " text=\"" ++ shown ++ "\">"

/-! ## Matching -/

/-- Whether the result of a matching operation is the matched text or its length. -/
inductive Wanted where
  | text
  | length
  deriving DecidableEq, Repr

/-- How to match. -/
structure MatchOptions where
  /-- Whether to move behind the match. -/
  advance : Bool
  /-- Whether the match must begin at the cursor. -/
  anchored : Bool
  wanted : Wanted
  deriving DecidableEq, Repr

/-- How each of the matching operations matches. -/
def optionsOf : MatchOp → MatchOptions
  | .check => ⟨false, true, .text⟩
  | .scan => ⟨true, true, .text⟩
  | .skip => ⟨true, true, .length⟩
  | .checkUntil => ⟨false, false, .text⟩
  | .scanUntil => ⟨true, false, .text⟩
  | .skipUntil => ⟨true, false, .length⟩

/-- How many characters were matched; without a match none were. -/
def lengthOf (m : Option String) : Nat :=
  m.elim 0 String.length

/-- The result of a matching operation. Without a match there is no text, and the length is
zero. -/
inductive MatchResult where
  | text (matched : Option String)
  | length (n : Nat)
  deriving DecidableEq, Repr

namespace MatchResult

/-- The result as it is wanted, given what was matched. -/
def ofMatched (wanted : Wanted) (matched : Option String) : MatchResult :=
  match wanted with
  | .text => .text matched
  | .length => .length (lengthOf matched)

/-- The result as a text. Of a length it is the text that is remembered. -/
def textOr (remembered : Option String) : MatchResult → Option String
  | .text m => m
  | .length _ => remembered

/-- The result as a length. Of a text it is the length of what is remembered. -/
def lengthOr (remembered : Option String) : MatchResult → Nat
  | .text _ => lengthOf remembered
  | .length n => n

end MatchResult

/-- The cursor moved behind a matched text; where nothing was matched it stays. -/
def moveBehind (c : Cursor) (matched : Option String) : Cursor :=
  match matched with
  | some m => { c with position := c.position + m.length, offset := c.offset + m }
  | none => c

/-- The event that a match or its absence is reported as. -/
def matchEvent (c : Cursor) (pattern : String) : Option String → Event
  | some m => .matched m c.position pattern
  | none => .unmatched c.position pattern

/-- Matches a pattern ahead. What is remembered as matched, and moved over, reaches from the cursor
to the end of the match, so it includes what an unanchored match left out before it. -/
def attempt (c : Cursor) (pattern : String) (options : MatchOptions) : Op MatchResult :=
  match c.patterns.get pattern with
  | (.error e, log) => ⟨.error e, c, log⟩
  | (.ok (p, patterns), log) =>
    let m := p.matched? options.anchored c.rest
    let found : Cursor := { c with matched := m, patterns }
    ⟨.ok (.ofMatched options.wanted m),
      if options.advance then found.moveBehind m else found,
      log ++ [c.matchEvent pattern m]⟩

/-- One of the matching operations. -/
def search (c : Cursor) (op : MatchOp) (pattern : String) : Op MatchResult :=
  c.attempt pattern (optionsOf op)

/-- A matching operation that answers in another form, which may look at what is remembered after
it. -/
def answerAs {α : Type} (form : Option String → MatchResult → α) (e : Op MatchResult) : Op α :=
  e.map (form e.after.matched)

/-- What a pattern matches at the cursor, without moving. -/
def check (c : Cursor) (pattern : String) : Op (Option String) :=
  answerAs MatchResult.textOr (c.search .check pattern)

/-- Moves over what a pattern matches at the cursor. -/
def scan (c : Cursor) (pattern : String) : Op (Option String) :=
  answerAs MatchResult.textOr (c.search .scan pattern)

/-- Moves over what a pattern matches at the cursor, and gives its length. -/
def skip (c : Cursor) (pattern : String) : Op Nat :=
  answerAs MatchResult.lengthOr (c.search .skip pattern)

/-- The text ahead up to the end of the first match of a pattern, without moving. -/
def checkUntil (c : Cursor) (pattern : String) : Op (Option String) :=
  answerAs MatchResult.textOr (c.search .checkUntil pattern)

/-- Moves behind the first match of a pattern ahead. -/
def scanUntil (c : Cursor) (pattern : String) : Op (Option String) :=
  answerAs MatchResult.textOr (c.search .scanUntil pattern)

/-- Moves behind the first match of a pattern ahead, and gives how far that is. -/
def skipUntil (c : Cursor) (pattern : String) : Op Nat :=
  answerAs MatchResult.lengthOr (c.search .skipUntil pattern)

@[simp]
theorem after_answerAs {α : Type} (form : Option String → MatchResult → α) (e : Op MatchResult) :
    (answerAs form e).after = e.after := rfl

theorem result_answerAs_of_ok {α : Type} {e : Op MatchResult} {r : MatchResult}
    (h : e.result = .ok r) (form : Option String → MatchResult → α) :
    (answerAs form e).result = .ok (form e.after.matched r) :=
  Effect.result_map_of_ok h _

theorem result_answerAs_of_error {α : Type} {e : Op MatchResult} {err : ScanError}
    (h : e.result = .error err) (form : Option String → MatchResult → α) :
    (answerAs form e).result = .error err :=
  Effect.result_map_of_error h _

/-! ## Other movements -/

/-- The offset so many characters before another, or the start of the text. -/
def stepBack (text : String) : Nat → String.Pos.Raw → String.Pos.Raw
  | 0, p => p
  | n + 1, p => stepBack text n (p.prev text)

/-- Goes back over what was matched last and forgets it. With nothing remembered, nothing
happens. -/
def unscan (c : Cursor) : Op Unit :=
  match c.matched with
  | none => ⟨.ok (), c, []⟩
  | some m =>
    ⟨.ok (),
      { c with
        position := c.position - m.length
        offset := stepBack c.text m.length c.offset
        matched := none },
      [.unscanning m c.position]⟩

/-- Moves over one character and remembers it as matched. -/
def getch (c : Cursor) : Op Char :=
  match c.current? with
  | some ch =>
    ⟨.ok ch,
      { c with
        position := c.position + 1
        offset := c.offset + ch
        matched := some (String.singleton ch) },
      []⟩
  | none => ⟨.error (.endOfInput c.position), c, []⟩

/-- Adds to the end of the text. -/
def append (c : Cursor) (suffix : String) : Cursor :=
  { c with text := c.text ++ suffix }

/-! ## Well-formed cursors -/

/-- The two forms of the position agree: the characters behind the cursor are the first characters
of the text, and the offset is how many bytes they take. -/
structure WF (c : Cursor) : Prop where
  position_le : c.position ≤ c.text.length
  offset_eq : c.offset.byteIdx = (String.ofList (c.text.toList.take c.position)).utf8ByteSize

theorem wf_new (text : String) : (new text).WF where
  position_le := Nat.zero_le _
  offset_eq := by simp [new]

end Cursor

end TextCursor
