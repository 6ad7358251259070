import TextCursor.Unicode.Property

/-!
# Classes of grapheme breaks

The values of the property `Grapheme_Cluster_Break` (version 16) that some characters have: what
kind of part a character is of what a reader takes for one sign. A character that belongs to no
class stands for itself.
-/

namespace TextCursor.Unicode

/-- A class of characters that joins or parts what readers take for one sign. -/
inductive GraphemeBreak where
  | carriageReturn
  | lineFeed
  | control
  | extend
  | joiner
  | regionalIndicator
  | prepend
  | spacingMark
  | leadingConsonant
  | vowel
  | trailingConsonant
  | openSyllable
  | closedSyllable
  deriving DecidableEq, Repr

namespace GraphemeBreak

/-- The names of each class. -/
def names : GraphemeBreak → List String
  | .carriageReturn => ["CR"]
  | .lineFeed => ["LF"]
  | .control => ["Control", "CN"]
  | .extend => ["Extend", "EX"]
  | .joiner => ["ZWJ"]
  | .regionalIndicator => ["Regional_Indicator", "RI"]
  | .prepend => ["Prepend", "PP"]
  | .spacingMark => ["SpacingMark", "SM"]
  | .leadingConsonant => ["L"]
  | .vowel => ["V"]
  | .trailingConsonant => ["T"]
  | .openSyllable => ["LV"]
  | .closedSyllable => ["LVT"]

/-- Every class. -/
def all : List GraphemeBreak :=
  [.carriageReturn, .lineFeed, .control, .extend, .joiner, .regionalIndicator, .prepend,
   .spacingMark, .leadingConsonant, .vowel, .trailingConsonant, .openSyllable, .closedSyllable]

/-! ## Members -/

/-- The zero width joiner. -/
def zeroWidthJoiner : Char := '\u200D'

/-- Characters that join what follows them. -/
def prependTable : RangeTable := .ofText "
600-605 6DD 70F 890-891 8E2 D4E 110BD 110CD 111C2-111C3 113D1 1193F 11941 11A3A 11A84-11A89
11D46 11F02"

/-- Vowel signs that join what precedes them, but are no marks. -/
def joiningVowelTable : RangeTable := .ofText "E33 EB3"

/-- Spacing marks that do not join what precedes them. -/
def partingMarkTable : RangeTable := .ofText "
102B-102C 1038 1062-1064 1067-106D 1083 1087-108C 108F 109A-109C 1A61 1A63-1A64 AA7B AA7D
11720-11721"

/-- Consonants that begin a Hangul syllable. -/
def leadingConsonantTable : RangeTable := .ofText "1100-115F A960-A97C"

/-- Vowels inside a syllable that is written letter by letter. -/
def vowelTable : RangeTable := .ofText "1160-11A7 D7B0-D7C6 16D63 16D67-16D6A"

/-- Consonants that end a Hangul syllable. -/
def trailingConsonantTable : RangeTable := .ofText "11A8-11FF D7CB-D7FB"

/-- How many closed syllables there are to one open syllable, and one more. -/
def syllablePeriod : Nat := 28

/-- Whether the character is a Hangul syllable written as one character. -/
def isSyllable (c : Char) : Bool :=
  '\uAC00' ≤ c && c ≤ '\uD7A3'

/-- Whether a Hangul syllable has no consonant at its end. -/
def isOpen (c : Char) : Bool :=
  (c.toNat - 0xAC00) % syllablePeriod == 0

/-- Marks that extend the character before them. -/
def isExtend (c : Char) : Bool :=
  (Property.isGraphemeExtend c || Property.emojiModifierTable.contains c) && c != zeroWidthJoiner

/-- Characters that show nothing and stand by themselves. -/
def isControl (c : Char) : Bool :=
  (Property.inCategory [.lineSeparator, .paragraphSeparator, .control, .format] c
      || (Property.inCategory [.unassigned] c && Property.isDefaultIgnorable c))
    && c != '\r' && c != '\n' && c != zeroWidthJoiner && !isExtend c
    && !Property.prependedConcatenationMarkTable.contains c

/-- Whether the class holds the character. -/
def contains : GraphemeBreak → Char → Bool
  | .carriageReturn, c => c == '\r'
  | .lineFeed, c => c == '\n'
  | .control, c => isControl c
  | .extend, c => isExtend c
  | .joiner, c => c == zeroWidthJoiner
  | .regionalIndicator, c => Property.regionalIndicatorTable.contains c
  | .prepend, c => prependTable.contains c
  | .spacingMark, c =>
    (Property.inCategory [.spacingMark] c && !isExtend c && !partingMarkTable.contains c)
      || joiningVowelTable.contains c
  | .leadingConsonant, c => leadingConsonantTable.contains c
  | .vowel, c => vowelTable.contains c
  | .trailingConsonant, c => trailingConsonantTable.contains c
  | .openSyllable, c => isSyllable c && isOpen c
  | .closedSyllable, c => isSyllable c && !isOpen c

end GraphemeBreak

end TextCursor.Unicode
