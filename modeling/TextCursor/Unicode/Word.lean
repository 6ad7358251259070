import TextCursor.Unicode.Property

/-!
# Digits and word characters

The decimal digits (category `Nd`) and the characters of which words are made: letters and what
counts as one, marks, decimal digits, connectors such as `_`, and the two joiners. Characters of
ASCII are decided without the tables.
-/

namespace TextCursor.Unicode

/-- Whether the character is a decimal digit of some script. -/
def isDecimalDigit (c : Char) : Bool :=
  if c.toNat < 128 then c.isDigit else Category.contains .decimalNumber c

/-- Whether the character is a digit, a letter or `_` of ASCII. -/
def isAsciiWordChar (c : Char) : Bool :=
  c.isAlphanum || c == '_'

/-- Whether words may hold the character. -/
def isWordChar (c : Char) : Bool :=
  if c.toNat < 128 then isAsciiWordChar c
  else
    Property.isAlphabetic c
      || Property.inCategory
          [.nonspacingMark, .spacingMark, .enclosingMark, .decimalNumber, .connectorPunctuation] c
      || Property.joinControlTable.contains c

theorem isWordChar_of_ascii {c : Char} (h : c.toNat < 128) :
    isWordChar c = isAsciiWordChar c := by
  simp [isWordChar, h]

end TextCursor.Unicode
