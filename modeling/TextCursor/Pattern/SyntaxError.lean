/-!
# Causes of rejection
-/

namespace TextCursor.Pattern

/-- Why a text is not a pattern. -/
inductive SyntaxError where
  | unclosedGroup
  | unopenedGroup
  | badGroupName
  | duplicateGroupName
  | badFlags
  | lookAround
  | backreference
  | nothingToRepeat
  | badCount
  | badEscape
  | badCodePoint
  | unclosedClass
  | badRange
  | notAClassMember
  | unknownProperty
  | badWordEdge
  /-- The part could match a part of a character's encoding. -/
  | splitsCharacters
  /-- The part needs Unicode, which a flag has switched off. -/
  | needsUnicode
  | tooDeep
  deriving DecidableEq, Repr

end TextCursor.Pattern
