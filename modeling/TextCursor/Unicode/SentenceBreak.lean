import TextCursor.Unicode.WordBreak

/-!
# Classes of sentence breaks

The values of the property `Sentence_Break` (version 16) that some characters have: what part a
character plays in sentences and at their ends.
-/

namespace TextCursor.Unicode

/-- A class of characters by their part in sentences. -/
inductive SentenceBreak where
  | carriageReturn
  | lineFeed
  | separator
  | extend
  | blank
  | format
  | lower
  | upper
  | otherLetter
  | numeric
  | fullStop
  | continuation
  | terminator
  | close
  deriving DecidableEq, Repr

namespace SentenceBreak

/-- The names of each class. -/
def names : SentenceBreak → List String
  | .carriageReturn => ["CR"]
  | .lineFeed => ["LF"]
  | .separator => ["Sep", "SE"]
  | .extend => ["Extend", "EX"]
  | .blank => ["Sp", "SP"]
  | .format => ["Format", "FO"]
  | .lower => ["Lower", "LO"]
  | .upper => ["Upper", "UP"]
  | .otherLetter => ["OLetter", "LE"]
  | .numeric => ["Numeric", "NU"]
  | .fullStop => ["ATerm", "AT"]
  | .continuation => ["SContinue", "SC"]
  | .terminator => ["STerm", "ST"]
  | .close => ["Close", "CL"]

/-- Every class. -/
def all : List SentenceBreak :=
  [.carriageReturn, .lineFeed, .separator, .extend, .blank, .format, .lower, .upper, .otherLetter,
   .numeric, .fullStop, .continuation, .terminator, .close]

/-! ## Members -/

/-- Ends of paragraphs, except the two most common. -/
def separatorTable : RangeTable := .ofText "85 2028-2029"

/-- Format characters that do not count as such between sentences. -/
def shownFormatTable : RangeTable := .ofText "
600-605 6DD 890-891 8E2 200C-200D 110BD 110CD E0020-E007F"

/-- Small letters of a script that does not begin sentences with capitals. -/
def caselessLowerTable : RangeTable := .ofText "10D0-10FA 10FD-10FF"

/-- Capitals of that script. -/
def caselessUpperTable : RangeTable := .ofText "1C90-1CBA 1CBD-1CBF"

/-- Full stops, which end a sentence or an abbreviation. -/
def fullStopTable : RangeTable := .ofText "2E 2024 FE52 FF0E"

/-- Signs after which a sentence goes on. -/
def continuationTable : RangeTable := .ofText "
2C-2D 3A-3B 37E 55D 60C-60D 7F8 1802 1808 2013-2014 3001 FE10-FE11 FE13-FE14 FE31-FE32 FE50-FE51
FE54-FE55 FE58 FE63 FF0C-FF0D FF1A-FF1B FF64"

/-- Quotation marks that are not told apart as opening and closing. -/
def quoteTable : RangeTable := .ofText "22 27 275B-2760 2E00-2E01 2E06-2E08 2E0B 1F676-1F678"

/-- The Hebrew sign for abbreviations and foreign sounds, which counts as a letter. -/
def geresh : Char := '\u05F3'

/-- The Arabic sign between groups of digits, which counts as a digit here. -/
def thousandsSeparator : Char := '\u066C'

/-- Marks of all kinds, and the joiner. -/
def isExtend (c : Char) : Bool :=
  Property.isGraphemeExtend c || Property.inCategory [.spacingMark] c
    || c == GraphemeBreak.zeroWidthJoiner

/-- Small letters. -/
def isLower (c : Char) : Bool :=
  Property.isLowercase c && !Property.isGraphemeExtend c && !caselessLowerTable.contains c

/-- Capitals and titlecase letters. -/
def isUpper (c : Char) : Bool :=
  (Property.inCategory [.titlecaseLetter] c || Property.isUppercase c)
    && !caselessUpperTable.contains c

/-- Whether the class holds the character. -/
def contains : SentenceBreak → Char → Bool
  | .carriageReturn, c => c == '\r'
  | .lineFeed, c => c == '\n'
  | .separator, c => separatorTable.contains c
  | .extend, c => isExtend c
  | .blank, c => Text.isBlank c && c != '\r' && c != '\n' && !separatorTable.contains c
  | .format, c => Property.inCategory [.format] c && !shownFormatTable.contains c
  | .lower, c => isLower c
  | .upper, c => isUpper c
  | .otherLetter, c =>
    (Property.isAlphabetic c || c == geresh) && !isLower c && !isUpper c && !isExtend c
  | .numeric, c => WordBreak.isNumeric c || c == thousandsSeparator
  | .fullStop, c => fullStopTable.contains c
  | .continuation, c => continuationTable.contains c
  | .terminator, c => Property.sentenceTerminalTable.contains c && !fullStopTable.contains c
  | .close, c =>
    Property.inCategory [.openPunctuation, .closePunctuation, .initialPunctuation,
        .finalPunctuation] c
      || quoteTable.contains c

end SentenceBreak

end TextCursor.Unicode
