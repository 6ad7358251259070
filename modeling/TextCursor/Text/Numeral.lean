/-!
# Numerals

Reading numbers in decimal: digits of ASCII, after an optional sign, and no value beyond the range
that is asked for. Of hexadecimal numerals only the digits are read here, since how many there may be
depends on where they stand.
-/

namespace TextCursor.Text

/-- The value of a text that consists of one or more digits. -/
def decimal? (cs : List Char) : Option Nat :=
  if !cs.isEmpty && cs.all Char.isDigit then some (Nat.ofDigitChars 10 cs 0) else none

/-- The first number that does not fit 64 bits. -/
def wordLimit : Nat := Nat.pow 2 64

/-- The first number that does not fit 63 bits. -/
def signedLimit : Nat := Nat.pow 2 63

/-- The number of 64 bits that a text gives, with or without a `+`. -/
def readWord? (cs : List Char) : Option Nat :=
  let digits := match cs with
    | '+' :: rest => rest
    | _ => cs
  (decimal? digits).filter (· < wordLimit)

/-- The signed number of 64 bits that a text gives, with or without a sign. -/
def readSigned? (cs : List Char) : Option Int64 :=
  match cs with
  | '-' :: rest =>
    ((decimal? rest).filter (· ≤ signedLimit)).map fun n => Int64.ofInt (-n)
  | '+' :: rest => ((decimal? rest).filter (· < signedLimit)).map fun n => Int64.ofInt n
  | _ => ((decimal? cs).filter (· < signedLimit)).map fun n => Int64.ofInt n

/-- The numeral of a signed number. -/
def signed (i : Int64) : String :=
  toString i.toInt

/-- The value of a hexadecimal digit in either case. -/
def hexDigit? (c : Char) : Option Nat :=
  if '0' ≤ c ∧ c ≤ '9' then some (c.toNat - '0'.toNat)
  else if 'a' ≤ c ∧ c ≤ 'f' then some (c.toNat - 'a'.toNat + 10)
  else if 'A' ≤ c ∧ c ≤ 'F' then some (c.toNat - 'A'.toNat + 10)
  else none

theorem hexDigit?_digitChar : ∀ n < 16, hexDigit? (Nat.digitChar n) = some n := by
  decide

theorem decimal?_toDigits (n : Nat) : decimal? (Nat.toDigits 10 n) = some n := by
  have digits : (Nat.toDigits 10 n).all Char.isDigit = true :=
    List.all_eq_true.2 fun c h => Nat.isDigit_of_mem_toDigits (by decide) (by decide) h
  simp [decimal?, digits, Nat.toDigits_ne_nil, Nat.ofDigitChars_toDigits]

end TextCursor.Text
