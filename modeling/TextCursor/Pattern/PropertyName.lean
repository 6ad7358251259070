import TextCursor.Pattern.CharSet

/-!
# Names of Unicode properties

What may stand between the braces of `\p{…}`: the name of a property, of a general category or of
a script, or the name of a property with values and one of its values. Names are compared loosely:
without regard to case, blanks, `_`, `-` and a leading `is`.
-/

namespace TextCursor.Pattern

open TextCursor.Unicode

/-- The name without what loose comparison ignores. A leading `is` is dropped, except that the
name `isc` keeps it. -/
def looseName (name : List Char) : List Char :=
  let strip (cs : List Char) : List Char :=
    (cs.filter fun c => c.toNat < 128 && !(c == ' ' || c == '_' || c == '-')).map Char.toLower
  match name with
  | a :: b :: rest =>
    if (a == 'i' || a == 'I') && (b == 's' || b == 'S') then
      if strip rest == ['c'] then ['i', 's', 'c'] else strip rest
    else strip name
  | _ => strip name

/-- Whether a written name, already reduced by `looseName`, is one of the names. -/
def isNamed (loose : List Char) (names : List String) : Bool :=
  names.any fun n => looseName n.toList == loose

/-- The names of general categories and of groups of them. -/
def categoryNames : List (List String × List Category) :=
  [(["Lu", "Uppercase_Letter"], [.uppercaseLetter]),
   (["Ll", "Lowercase_Letter"], [.lowercaseLetter]),
   (["Lt", "Titlecase_Letter"], [.titlecaseLetter]),
   (["LC", "Cased_Letter"], [.uppercaseLetter, .lowercaseLetter, .titlecaseLetter]),
   (["Lm", "Modifier_Letter"], [.modifierLetter]),
   (["Lo", "Other_Letter"], [.otherLetter]),
   (["L", "Letter"],
    [.uppercaseLetter, .lowercaseLetter, .titlecaseLetter, .modifierLetter, .otherLetter]),
   (["Mn", "Nonspacing_Mark"], [.nonspacingMark]),
   (["Mc", "Spacing_Mark"], [.spacingMark]),
   (["Me", "Enclosing_Mark"], [.enclosingMark]),
   (["M", "Mark", "Combining_Mark"], [.nonspacingMark, .spacingMark, .enclosingMark]),
   (["Nd", "Decimal_Number", "digit"], [.decimalNumber]),
   (["Nl", "Letter_Number"], [.letterNumber]),
   (["No", "Other_Number"], [.otherNumber]),
   (["N", "Number"], [.decimalNumber, .letterNumber, .otherNumber]),
   (["Pc", "Connector_Punctuation"], [.connectorPunctuation]),
   (["Pd", "Dash_Punctuation"], [.dashPunctuation]),
   (["Ps", "Open_Punctuation"], [.openPunctuation]),
   (["Pe", "Close_Punctuation"], [.closePunctuation]),
   (["Pi", "Initial_Punctuation"], [.initialPunctuation]),
   (["Pf", "Final_Punctuation"], [.finalPunctuation]),
   (["Po", "Other_Punctuation"], [.otherPunctuation]),
   (["P", "Punctuation", "punct"],
    [.connectorPunctuation, .dashPunctuation, .openPunctuation, .closePunctuation,
     .initialPunctuation, .finalPunctuation, .otherPunctuation]),
   (["Sm", "Math_Symbol"], [.mathSymbol]),
   (["Sc", "Currency_Symbol"], [.currencySymbol]),
   (["Sk", "Modifier_Symbol"], [.modifierSymbol]),
   (["So", "Other_Symbol"], [.otherSymbol]),
   (["S", "Symbol"], [.mathSymbol, .currencySymbol, .modifierSymbol, .otherSymbol]),
   (["Zs", "Space_Separator"], [.spaceSeparator]),
   (["Zl", "Line_Separator"], [.lineSeparator]),
   (["Zp", "Paragraph_Separator"], [.paragraphSeparator]),
   (["Z", "Separator"], [.spaceSeparator, .lineSeparator, .paragraphSeparator]),
   (["Cc", "Control", "cntrl"], [.control]),
   (["Cf", "Format"], [.format]),
   (["Co", "Private_Use"], [.privateUse]),
   (["Cn", "Unassigned"], [.unassigned]),
   (["C", "Other"], [.control, .format, .privateUse, .unassigned])]

/-- The set that a name of a general category stands for. -/
def categorySet? (loose : List Char) : Option CharSet :=
  if isNamed loose ["any"] then some .any
  else if isNamed loose ["assigned"] then some (.compl (.category [.unassigned]))
  else if isNamed loose ["ascii"] then some (.range '\x00' '\x7F')
  else (categoryNames.find? fun entry => isNamed loose entry.1).map fun entry => .category entry.2

/-- The script that a name stands for. -/
def script? (loose : List Char) : Option Script :=
  Script.all.find? fun s => isNamed loose s.names

/-- The property that a name stands for. The names `cf`, `sc` and `lc` are left to the general
categories. -/
def property? (loose : List Char) : Option Property :=
  if isNamed loose ["cf", "sc", "lc"] then none
  else Property.all.find? fun p => isNamed loose p.names

/-- The set that a single name stands for. -/
def namedSet? (name : List Char) : Option CharSet :=
  let loose := looseName name
  ((property? loose).map .property) <|> categorySet? loose <|> (script? loose).map .script

/-- The set of characters for which the property of the first name has the value of the second. -/
def valueSet? (name value : List Char) : Option CharSet :=
  let property := looseName name
  let loose := looseName value
  if isNamed property ["gc", "General_Category"] then categorySet? loose
  else if isNamed property ["sc", "Script"] then (script? loose).map .script
  else if isNamed property ["scx", "Script_Extensions"] then
    (script? loose).map .scriptExtensions
  else if isNamed property ["Age"] then
    (Age.upTo? fun a => isNamed loose a.names).map .age
  else if isNamed property ["GCB", "Grapheme_Cluster_Break"] then
    (GraphemeBreak.all.find? fun k => isNamed loose k.names).map .graphemeBreak
  else if isNamed property ["WB", "Word_Break"] then
    (WordBreak.all.find? fun k => isNamed loose k.names).map .wordBreak
  else if isNamed property ["SB", "Sentence_Break"] then
    (SentenceBreak.all.find? fun k => isNamed loose k.names).map .sentenceBreak
  else none

/-- Splits a text at the first place where the second text stands. -/
def splitAtFirst? (sep : List Char) : List Char → Option (List Char × List Char)
  | [] => none
  | c :: cs =>
    if sep.isPrefixOf (c :: cs) then some ([], (c :: cs).drop sep.length)
    else (splitAtFirst? sep cs).map fun (before, after) => (c :: before, after)

/-- A set of characters that is asked for, or its complement. -/
structure Query where
  negated : Bool
  set : CharSet

/-- What the text between the braces of `\p{…}` asks for: a name and a value around `!=`, `:` or
`=`, or a name alone. With `!=` it asks for the characters that do not have the value. -/
def query? (text : List Char) : Option Query :=
  match splitAtFirst? ['!', '='] text with
  | some (name, value) => (valueSet? name value).map (⟨true, ·⟩)
  | none =>
    match splitAtFirst? [':'] text <|> splitAtFirst? ['='] text with
    | some (name, value) => (valueSet? name value).map (⟨false, ·⟩)
    | none => (namedSet? text).map (⟨false, ·⟩)

end TextCursor.Pattern
