import TextCursor.Unicode.Version17

/-!
# Quoted texts

A text between double quotes, with escapes for what would not show as itself: quotes and
backslashes, the common control characters, marks that would attach to the character before them,
characters of the categories that do not print, and those that are ignored where they cannot be
shown.
-/

namespace TextCursor.Text

open TextCursor.Unicode

/-- The categories whose characters do not print. The blank of ASCII is an exception. -/
def unprinted : List Category :=
  [.control, .format, .privateUse, .lineSeparator, .paragraphSeparator, .spaceSeparator]

/-- Whether the character shows as itself wherever it stands. -/
def showsAsItself (c : Char) : Bool :=
  if c.toNat < 128 then ' ' ≤ c && c ≤ '~'
  else
    Version17.isAssigned c && !Property.inCategory unprinted c
      && !Version17.isGraphemeExtend c && !Property.isDefaultIgnorable c

/-- The escape of a character by its code point. -/
def codeEscape (c : Char) : List Char :=
  '\\' :: 'u' :: '\x7B' :: Nat.toDigits 16 c.toNat ++ ['\x7D']

/-- How a character is written between quotes. -/
def quotedChar (c : Char) : List Char :=
  if c = '\x00' then ['\\', '0']
  else if c = '\t' then ['\\', 't']
  else if c = '\r' then ['\\', 'r']
  else if c = '\n' then ['\\', 'n']
  else if c = '\\' then ['\\', '\\']
  else if c = '"' then ['\\', '"']
  else if showsAsItself c then [c]
  else codeEscape c

/-- The text between double quotes, with escapes. -/
def quoted (s : String) : String :=
  String.ofList ('"' :: s.toList.flatMap quotedChar ++ ['"'])

end TextCursor.Text
