import TextCursor.Key
import TextCursor.Pattern.SyntaxError
import TextCursor.Text.Quoted

/-!
# What goes wrong while scanning
-/

namespace TextCursor

/-- Why an operation on a cursor has no answer. -/
inductive ScanError where
  /-- The text is not a pattern. -/
  | invalidPattern (source : String) (cause : Pattern.SyntaxError)
  /-- The text is not a key. -/
  | invalidKey (text : String)
  /-- The key is a slice with step zero. -/
  | zeroStep (key : Key)
  /-- A text of so many characters has no such position. -/
  | outOfRange (index : Int) (length : Nat)
  /-- There is no character at the position. -/
  | endOfInput (position : Nat)
  deriving DecidableEq, Repr

/-- The wording of an error. -/
def ScanError.message : ScanError → String
  | .invalidPattern source _ =>
    "Invalid pattern " ++ Text.quoted source ++ ": error parsing pattern 0"
  | .invalidKey text => "Invalid index: " ++ text
  | .zeroStep key => "Invalid index: " ++ key.toText ++ ": slice step cannot be zero"
  | .outOfRange index length =>
    "Index " ++ toString index ++ " out of range for text of length " ++ toString length
  | .endOfInput position => "End of input at position " ++ toString position

end TextCursor
