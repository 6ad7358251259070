import TextCursor.Json.ReadError
import TextCursor.Text.Numeral

/-!
# JSON numbers

Reading a number where a natural number of 64 bits is wanted. Other numbers are told apart from
texts that are no numbers, and so are those too great for the floating-point format of 64 bits,
which count as malformed. Whether a number is too great is decided as floating-point numbers are
computed: its first digits, as many as fit 64 bits, times a power of ten, with both factors and
the product rounded.
-/

namespace TextCursor.Json

/-- A number as it is written: the digits of its whole part, those of its fractional part and its
exponent. The latter two are absent from an integer. -/
structure Numeral where
  whole : List Char
  fraction : Option (List Char)
  exponent : Option Int
  deriving DecidableEq, Repr

/-! ## The range of floating-point numbers -/

/-- The nearest number with at most 53 significant bits. From the middle between two, it goes to
the one whose last bit is zero. -/
def roundTo53 (n : Nat) : Nat :=
  let unit := Nat.pow 2 (Nat.log2 n - 52)
  let count := n / unit
  let excess := 2 * (n % unit)
  if unit < excess || (unit = excess && count % 2 = 1) then (count + 1) * unit else count * unit

/-- The least number that is rounded to infinity in the floating-point format of 64 bits. -/
def infinityBound : Nat := Nat.pow 2 1024 - Nat.pow 2 970

/-- The greatest power of ten that is not rounded to infinity. -/
def greatestPower : Nat := 308

/-- Whether the product of a number of 64 bits and ten to the power `e`, computed in the
floating-point format of 64 bits, is infinite. Without a positive exponent it never is. -/
def overflows (n : Nat) (e : Int) : Bool :=
  n ≠ 0 && 0 < e
    && (greatestPower < e || infinityBound ≤ roundTo53 n * roundTo53 (Nat.pow 10 e.toNat))

/-- Adds digits to a number as long as it fits 64 bits, and gives the digits that are left. -/
def takeDigits (n : Nat) : List Char → Nat × List Char
  | [] => (n, [])
  | c :: cs =>
    let next := 10 * n + (c.toNat - '0'.toNat)
    if next < Text.wordLimit then takeDigits next cs else (n, c :: cs)

/-- Whether the number is too great for the floating-point format of 64 bits. Digits of the whole
part that do not fit still count as places, those of the fractional part do not. -/
def Numeral.isTooGreat (n : Numeral) : Bool :=
  let fraction := n.fraction.getD []
  let (lead, places) := takeDigits 0 n.whole
  let (lead, ignored) := takeDigits lead fraction
  overflows lead (places.length + ignored.length - fraction.length + n.exponent.getD 0)

/-! ## Reading -/

/-- Reads the digits of the whole part. A zero stands alone. -/
def readWhole : List Char → Except ReadError (List Char × List Char)
  | [] => .error .truncated
  | '0' :: cs =>
    if (cs.head?.map Char.isDigit).getD false then .error .malformed else .ok (['0'], cs)
  | c :: cs =>
    if c.isDigit then .ok (c :: cs.takeWhile Char.isDigit, cs.dropWhile Char.isDigit)
    else .error .malformed

/-- Reads one or more digits. -/
def readDigits : List Char → Except ReadError (List Char × List Char)
  | [] => .error .truncated
  | c :: cs =>
    if c.isDigit then .ok (c :: cs.takeWhile Char.isDigit, cs.dropWhile Char.isDigit)
    else .error .malformed

/-- Reads the fractional part, if there is one. -/
def readFraction : List Char → Except ReadError (Option (List Char) × List Char)
  | '.' :: cs => do
    let (digits, rest) ← readDigits cs
    return (some digits, rest)
  | cs => .ok (none, cs)

/-- Reads the exponent, if there is one. -/
def readExponent : List Char → Except ReadError (Option Int × List Char)
  | c :: cs =>
    if c = 'e' || c = 'E' then do
      let (negative, cs) := match cs with
        | '-' :: rest => (true, rest)
        | '+' :: rest => (false, rest)
        | _ => (false, cs)
      let (digits, rest) ← readDigits cs
      let n : Int := Nat.ofDigitChars 10 digits 0
      return (some (if negative then -n else n), rest)
    else .ok (none, c :: cs)
  | [] => .ok (none, [])

/-- Reads a number without its sign. -/
def readNumeral (cs : List Char) : Except ReadError (Numeral × List Char) := do
  let (whole, rest) ← readWhole cs
  let (fraction, rest) ← readFraction rest
  let (exponent, rest) ← readExponent rest
  let n : Numeral := ⟨whole, fraction, exponent⟩
  if n.isTooGreat then .error .malformed else return (n, rest)

/-- The natural number of 64 bits that a number without a sign is, if it is one. -/
def Numeral.word? (n : Numeral) : Option Nat :=
  if n.fraction.isNone && n.exponent.isNone then
    (some (Nat.ofDigitChars 10 n.whole 0)).filter (· < Text.wordLimit)
  else none

end TextCursor.Json
