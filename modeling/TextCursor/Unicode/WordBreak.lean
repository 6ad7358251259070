import TextCursor.Unicode.GraphemeBreak
import TextCursor.Unicode.Script

/-!
# Classes of word breaks

The values of the property `Word_Break` (version 16) that some characters have: what part a
character plays in words and between them. A character that belongs to no class is a word by
itself.
-/

namespace TextCursor.Unicode

/-- A class of characters by their part in words. -/
inductive WordBreak where
  | carriageReturn
  | lineFeed
  | newline
  | extend
  | joiner
  | format
  | katakana
  | hebrewLetter
  | letter
  | singleQuote
  | doubleQuote
  | middleOfAny
  | middleOfLetters
  | middleOfNumbers
  | numeric
  | connector
  | regionalIndicator
  | blank
  deriving DecidableEq, Repr

namespace WordBreak

/-- The names of each class. -/
def names : WordBreak → List String
  | .carriageReturn => ["CR"]
  | .lineFeed => ["LF"]
  | .newline => ["Newline", "NL"]
  | .extend => ["Extend"]
  | .joiner => ["ZWJ"]
  | .format => ["Format", "FO"]
  | .katakana => ["Katakana", "KA"]
  | .hebrewLetter => ["Hebrew_Letter", "HL"]
  | .letter => ["ALetter", "LE"]
  | .singleQuote => ["Single_Quote", "SQ"]
  | .doubleQuote => ["Double_Quote", "DQ"]
  | .middleOfAny => ["MidNumLet", "MB"]
  | .middleOfLetters => ["MidLetter", "ML"]
  | .middleOfNumbers => ["MidNum", "MN"]
  | .numeric => ["Numeric", "NU"]
  | .connector => ["ExtendNumLet", "EX"]
  | .regionalIndicator => ["Regional_Indicator", "RI"]
  | .blank => ["WSegSpace"]

/-- Every class. -/
def all : List WordBreak :=
  [.carriageReturn, .lineFeed, .newline, .extend, .joiner, .format, .katakana, .hebrewLetter,
   .letter, .singleQuote, .doubleQuote, .middleOfAny, .middleOfLetters, .middleOfNumbers,
   .numeric, .connector, .regionalIndicator, .blank]

/-! ## Members -/

/-- Ends of lines, except the two most common. -/
def newlineTable : RangeTable := .ofText "B-C 85 2028-2029"

/-- Format characters that do not count as such between words. -/
def shownFormatTable : RangeTable := .ofText "
600-605 6DD 70F 890-891 8E2 200B-200D 110BD 110CD E0020-E007F"

/-- Signs of the Katakana script and what is written among them. -/
def katakanaTable : RangeTable := .ofText "
3031-3035 309B-309C 30A0-30FA 30FC-30FF 31F0-31FF 32D0-32FE 3300-3357 FF66-FF9D 1AFF0-1AFF3
1AFF5-1AFFB 1AFFD-1AFFE 1B000 1B120-1B122 1B155 1B164-1B167"

/-- Signs that are written in words like letters. -/
def letterLikeTable : RangeTable := .ofText "
2C2-2C5 2D2-2D7 2DE-2DF 2E5-2EB 2ED 2EF-2FF 55A-55C 55E 58A 5F3 70F A708-A716 A720-A721
A789-A78A AB5B"

/-- Letters of scripts that put no blanks between words. -/
def unspacedLetterTable : RangeTable := .ofText "
E01-E30 E32-E33 E40-E46 E81-E82 E84 E86-E8A E8C-EA3 EA5 EA7-EB0 EB2-EB3 EBD EC0-EC4 EC6 EDC-EDF
1000-102A 103F 1050-1055 105A-105D 1061 1065-1066 106E-1070 1075-1081 108E 1780-17B3 17D7 17DC
1950-196D 1970-1974 1980-19AB 19B0-19C9 1A20-1A54 1AA7 A9E0-A9E4 A9E6-A9EF A9FA-A9FE AA60-AA76
AA7A AA7E-AAAF AAB1 AAB5-AAB6 AAB9-AABD AAC0 AAC2 AADB-AADD 11700-1171A 11740-11746"

/-- Signs that may stand inside words and inside numbers. -/
def middleOfAnyTable : RangeTable := .ofText "2E 2018-2019 2024 FE52 FF07 FF0E"

/-- Signs that may stand inside words. -/
def middleOfLettersTable : RangeTable := .ofText "3A B7 387 55F 5F4 2027 FE13 FE55 FF1A"

/-- Signs that may stand inside numbers. -/
def middleOfNumbersTable : RangeTable := .ofText "
2C 3B 37E 589 60C-60D 66C 7F8 2044 FE50 FE54 FF0C FF1B"

/-- Signs that are written in numbers like digits. -/
def numberSignTable : RangeTable := .ofText "600-605 66B 6DD 890-891 8E2 19DA 110BD 110CD"

/-- The narrow blank that connects what it stands between. -/
def narrowBlank : Char := '\u202F'

/-- Blanks that do not part words. -/
def solidBlanks : List Char := ['\u00A0', '\u2007', narrowBlank]

/-- Marks of all kinds. -/
def isExtend (c : Char) : Bool :=
  GraphemeBreak.isExtend c || Property.inCategory [.spacingMark] c

/-- Letters of the Hebrew script. -/
def isHebrewLetter (c : Char) : Bool :=
  Script.hebrew.contains c && Property.inCategory [.otherLetter] c

/-- Letters of scripts that part words by blanks, and what is written like letters. -/
def isLetter (c : Char) : Bool :=
  (Property.isAlphabetic c && !Property.ideographicTable.contains c && !katakanaTable.contains c
      && !Script.hiragana.contains c && !isExtend c && !isHebrewLetter c
      && !unspacedLetterTable.contains c)
    || letterLikeTable.contains c

/-- Digits, and what is written in numbers like digits. -/
def isNumeric (c : Char) : Bool :=
  Property.inCategory [.decimalNumber] c || numberSignTable.contains c

/-- Whether the class holds the character. -/
def contains : WordBreak → Char → Bool
  | .carriageReturn, c => c == '\r'
  | .lineFeed, c => c == '\n'
  | .newline, c => newlineTable.contains c
  | .extend, c => isExtend c
  | .joiner, c => c == GraphemeBreak.zeroWidthJoiner
  | .format, c => Property.inCategory [.format] c && !shownFormatTable.contains c
  | .katakana, c => katakanaTable.contains c
  | .hebrewLetter, c => isHebrewLetter c
  | .letter, c => isLetter c
  | .singleQuote, c => c == '\''
  | .doubleQuote, c => c == '"'
  | .middleOfAny, c => middleOfAnyTable.contains c
  | .middleOfLetters, c => middleOfLettersTable.contains c
  | .middleOfNumbers, c => middleOfNumbersTable.contains c
  | .numeric, c => isNumeric c
  | .connector, c => Property.inCategory [.connectorPunctuation] c || c == narrowBlank
  | .regionalIndicator, c => Property.regionalIndicatorTable.contains c
  | .blank, c => Property.inCategory [.spaceSeparator] c && !solidBlanks.contains c

end WordBreak

end TextCursor.Unicode
