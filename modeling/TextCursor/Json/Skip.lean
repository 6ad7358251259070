import TextCursor.Json.StringLiteral

/-!
# Passing over JSON values

A value that nobody asked for is passed over, to any depth, and refused only where it is not JSON.
-/

namespace TextCursor.Json

/-- Takes the given characters from the start of a text. -/
def expect : (wanted : List Char) → List Char → Except ReadError (Unit × List Char)
  | [], cs => .ok ((), cs)
  | _ :: _, [] => .error .truncated
  | w :: wanted, c :: cs => if c = w then expect wanted cs else .error .malformed

/-- Passes over one or more digits. -/
def skipDigits : List Char → Except ReadError (Unit × List Char)
  | c :: cs => if c.isDigit then .ok ((), cs.dropWhile Char.isDigit) else .error .malformed
  | [] => .error .malformed

/-- Passes over the exponent of a number, if there is one. -/
def skipExponent : List Char → Except ReadError (Unit × List Char)
  | c :: cs =>
    if c = 'e' || c = 'E' then
      match cs with
      | '-' :: rest | '+' :: rest => skipDigits rest
      | _ => skipDigits cs
    else .ok ((), c :: cs)
  | [] => .ok ((), [])

/-- Passes over a number without its sign. A number that breaks off counts as malformed. -/
def skipNumber (cs : List Char) : Except ReadError (Unit × List Char) := do
  let rest ← match cs with
    | '0' :: rest =>
      if (rest.head?.map Char.isDigit).getD false then .error .malformed else .ok rest
    | _ => (skipDigits cs).map (·.2)
  match rest with
  | '.' :: rest => do
    let (_, rest) ← skipDigits rest
    skipExponent rest
  | _ => skipExponent rest

/-- What is to be passed over. -/
inductive Skipping where
  | value
  /-- A value of an array, and all up to the end of the array. -/
  | items
  /-- A member of an object, and all up to the end of the object. -/
  | members

/-- Passes over a value, or to the end of an array or object. -/
def skipFrom : (fuel : Nat) → Skipping → List Char → Except ReadError (Unit × List Char)
  | 0, _, _ => .error .truncated
  | fuel + 1, .value, cs =>
    match skipSpace cs with
    | [] => .error .truncated
    | 'n' :: rest => expect ['u', 'l', 'l'] rest
    | 't' :: rest => expect ['r', 'u', 'e'] rest
    | 'f' :: rest => expect ['a', 'l', 's', 'e'] rest
    | '-' :: rest => skipNumber rest
    | '"' :: rest => (skipString rest).map fun r => ((), r.2)
    | '[' :: rest =>
      match skipSpace rest with
      | ']' :: rest => .ok ((), rest)
      | [] => .error .truncated
      | rest => skipFrom fuel .items rest
    | '\x7B' :: rest =>
      match skipSpace rest with
      | '\x7D' :: rest => .ok ((), rest)
      | [] => .error .truncated
      | rest => skipFrom fuel .members rest
    | c :: rest => if c.isDigit then skipNumber (c :: rest) else .error .malformed
  | fuel + 1, .items, cs => do
    let (_, rest) ← skipFrom fuel .value cs
    match skipSpace rest with
    | [] => .error .truncated
    | ',' :: rest => skipFrom fuel .items rest
    | ']' :: rest => return ((), rest)
    | _ => .error .malformed
  | fuel + 1, .members, cs =>
    match skipSpace cs with
    | [] => .error .truncated
    | '"' :: rest => do
      let (_, rest) ← skipString rest
      match skipSpace rest with
      | [] => .error .truncated
      | ':' :: rest => do
        let (_, rest) ← skipFrom fuel .value rest
        match skipSpace rest with
        | [] => .error .truncated
        | ',' :: rest => skipFrom fuel .members rest
        | '\x7D' :: rest => return ((), rest)
        | _ => .error .malformed
      | _ => .error .malformed
    | _ => .error .malformed

/-- Passes over a value. Each two steps take a character, so twice the length of the text is
enough. -/
def skipValue (cs : List Char) : Except ReadError (Unit × List Char) :=
  skipFrom (2 * cs.length + 2) .value cs

end TextCursor.Json
