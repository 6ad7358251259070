import Mathlib.Algebra.Ring.Int.Defs
import Mathlib.Algebra.Ring.Nat
import TextCursor.Text.Blank
import TextCursor.Text.Numeral

/-!
# Numerals

A number can be spelled with a sign and with zeros before its digits. `Digits`, `Unsigned` and
`Signed` say which texts spell a number, of any size, and `readWord?_eq_some_iff` and
`readSigned?_eq_some_iff` that just these are read where 64 bits hold the number.

The numeral of a number is one of its spellings, so that it is read back from it
(`readWord?_toString`, `readSigned?_signed`), and none is shorter (`Signed.length_le`). Numerals
consist of digits and perhaps a minus, so that trimming leaves them as they are.
-/

namespace TextCursor.Text

/-- The characters of numerals. -/
def isNumeralChar (c : Char) : Bool :=
  c == '-' || c.isDigit

theorem toNat_of_isDigit {c : Char} (h : c.isDigit = true) : 48 ≤ c.toNat ∧ c.toNat ≤ 57 := by
  simp only [Char.isDigit, Bool.and_eq_true, decide_eq_true_eq] at h
  exact ⟨h.1, h.2⟩

theorem isBlank_of_isNumeralChar {c : Char} (h : isNumeralChar c = true) : isBlank c = false := by
  rw [isNumeralChar, Bool.or_eq_true, beq_iff_eq] at h
  rcases h with rfl | digit
  · rfl
  · have := toNat_of_isDigit digit
    simp [isBlank]
    omega

/-! ## Spellings -/

/-- One or more digits of ASCII, and the number that they stand for in decimal. -/
structure Digits (cs : List Char) (n : Nat) : Prop where
  ne_nil : cs ≠ []
  digit : ∀ c ∈ cs, c.isDigit = true
  value : Nat.ofDigitChars 10 cs 0 = n

/-- A text that spells a natural number: digits, with one plus before them or none. -/
inductive Unsigned : List Char → Nat → Prop
  | plain {cs : List Char} {n : Nat} : Digits cs n → Unsigned cs n
  | plus {cs : List Char} {n : Nat} : Digits cs n → Unsigned ('+' :: cs) n

/-- A text that spells an integer: digits, with one sign before them or none. -/
inductive Signed : List Char → Int → Prop
  | plain {cs : List Char} {n : Nat} : Digits cs n → Signed cs n
  | plus {cs : List Char} {n : Nat} : Digits cs n → Signed ('+' :: cs) n
  | minus {cs : List Char} {n : Nat} : Digits cs n → Signed ('-' :: cs) (-n)

theorem decimal?_eq_some_iff {cs : List Char} {n : Nat} : decimal? cs = some n ↔ Digits cs n := by
  unfold decimal?
  constructor
  · intro read
    split at read
    · next shape =>
      simp only [Bool.and_eq_true, Bool.not_eq_true', List.isEmpty_eq_false_iff,
        List.all_eq_true] at shape
      exact ⟨shape.1, shape.2, Option.some.inj read⟩
    · cases read
  · rintro ⟨ne_nil, digit, value⟩
    have shape : (!cs.isEmpty && cs.all Char.isDigit) = true := by
      simp [ne_nil, List.all_eq_true.2 digit]
    rw [if_pos shape, value]

theorem Digits.head_ne {c : Char} {cs : List Char} {n : Nat} (h : Digits (c :: cs) n) :
    c ≠ '+' ∧ c ≠ '-' := by
  have first := h.digit c List.mem_cons_self
  constructor
  · rintro rfl
    cases first
  · rintro rfl
    cases first

theorem Signed.ne_nil {cs : List Char} {z : Int} (h : Signed cs z) : cs ≠ [] := by
  cases h with
  | plain digits => exact digits.ne_nil
  | plus _ => exact List.cons_ne_nil _ _
  | minus _ => exact List.cons_ne_nil _ _

theorem readWord?_eq_some_iff {cs : List Char} {n : Nat} :
    readWord? cs = some n ↔ Unsigned cs n ∧ n < wordLimit := by
  have digits (rest : List Char) :
      (decimal? rest).filter (· < wordLimit) = some n ↔ Digits rest n ∧ n < wordLimit := by
    rw [Option.filter_eq_some_iff, decimal?_eq_some_iff, decide_eq_true_eq]
  unfold readWord?
  split
  · next rest =>
    rw [digits]
    constructor
    · rintro ⟨spelled, fits⟩
      exact ⟨.plus spelled, fits⟩
    · rintro ⟨spelled, fits⟩
      cases spelled with
      | plain all => exact absurd rfl all.head_ne.1
      | plus spelled => exact ⟨spelled, fits⟩
  · next other =>
    rw [digits]
    constructor
    · rintro ⟨spelled, fits⟩
      exact ⟨.plain spelled, fits⟩
    · rintro ⟨spelled, fits⟩
      cases spelled with
      | plain spelled => exact ⟨spelled, fits⟩
      | plus _ => exact absurd rfl (other _)

/-- The number of 64 bits that is made from an integer is that integer, just where 64 bits hold it.
-/
theorem ofInt_eq_iff {z : Int} {i : Int64} :
    ((-2 ^ 63 ≤ z ∧ z < 2 ^ 63) ∧ Int64.ofInt z = i) ↔ i.toInt = z := by
  constructor
  · rintro ⟨⟨least, greatest⟩, rfl⟩
    exact Int64.toInt_ofInt_of_le least greatest
  · rintro rfl
    exact ⟨⟨i.le_toInt, i.toInt_lt⟩, Int64.ofInt_toInt i⟩

/-- A number that has been read is given just where 64 bits hold what its sign `f` makes of it. -/
theorem map_ofInt_eq_some_iff {f : Int → Int} {p : Nat → Bool}
    (fits : ∀ n : Nat, p n = true ↔ -2 ^ 63 ≤ f n ∧ f n < 2 ^ 63) {rest : List Char} {i : Int64} :
    (((decimal? rest).filter p).map fun n => Int64.ofInt (f n)) = some i ↔
      ∃ n : Nat, Digits rest n ∧ i.toInt = f n := by
  simp only [Option.map_eq_some_iff, Option.bind_eq_bind, Option.bind_eq_some_iff, Option.pure_def,
    Option.some.injEq, Option.filter_eq_some_iff, decimal?_eq_some_iff, fits, ← ofInt_eq_iff]
  constructor
  · rintro ⟨_, ⟨n, ⟨spelled, held⟩, rfl⟩, same⟩
    exact ⟨n, spelled, held, same⟩
  · rintro ⟨n, spelled, held, same⟩
    exact ⟨n, ⟨n, ⟨spelled, held⟩, rfl⟩, same⟩

theorem readSigned?_eq_some_iff {cs : List Char} {i : Int64} :
    readSigned? cs = some i ↔ Signed cs i.toInt := by
  have limit : signedLimit = 2 ^ 63 := rfl
  -- a minus reaches one further than a plus
  have negative (n : Nat) :
      decide (n ≤ signedLimit) = true ↔ -2 ^ 63 ≤ -(n : Int) ∧ -(n : Int) < 2 ^ 63 := by
    rw [decide_eq_true_eq]
    omega
  have positive (n : Nat) :
      decide (n < signedLimit) = true ↔ -2 ^ 63 ≤ (n : Int) ∧ (n : Int) < 2 ^ 63 := by
    rw [decide_eq_true_eq]
    omega
  unfold readSigned?
  split
  · next rest =>
    rw [map_ofInt_eq_some_iff (f := fun z => -z) negative]
    constructor
    · rintro ⟨n, spelled, value⟩
      exact value ▸ .minus spelled
    · intro spelled
      generalize i.toInt = z at spelled ⊢
      cases spelled with
      | plain all => exact absurd rfl all.head_ne.2
      | minus spelled => exact ⟨_, spelled, rfl⟩
  · next rest =>
    rw [map_ofInt_eq_some_iff (f := fun z => z) positive]
    constructor
    · rintro ⟨n, spelled, value⟩
      exact value ▸ .plus spelled
    · intro spelled
      generalize i.toInt = z at spelled ⊢
      cases spelled with
      | plain all => exact absurd rfl all.head_ne.1
      | plus spelled => exact ⟨_, spelled, rfl⟩
  · next noMinus noPlus =>
    rw [map_ofInt_eq_some_iff (f := fun z => z) positive]
    constructor
    · rintro ⟨n, spelled, value⟩
      exact value ▸ .plain spelled
    · intro spelled
      generalize i.toInt = z at spelled ⊢
      cases spelled with
      | plain spelled => exact ⟨_, spelled, rfl⟩
      | plus _ => exact absurd rfl (noPlus _)
      | minus _ => exact absurd rfl (noMinus _)

/-! ## Numerals -/

theorem toList_toString_nat (n : Nat) : (toString n).toList = Nat.toDigits 10 n := by
  rw [Nat.toString_eq_repr, Nat.toList_repr]

theorem digits_toString (n : Nat) : Digits (toString n).toList n := by
  rw [toList_toString_nat]
  exact decimal?_eq_some_iff.1 (decimal?_toDigits n)

theorem isDigit_of_mem_toString {n : Nat} {c : Char} (h : c ∈ (toString n).toList) :
    c.isDigit = true :=
  (digits_toString n).digit c h

theorem readWord?_toString {n : Nat} (fits : n < wordLimit) :
    readWord? (toString n).toList = some n :=
  readWord?_eq_some_iff.2 ⟨.plain (digits_toString n), fits⟩

/-- The numeral of a signed number is that of a natural number, with a minus before it or not. -/
theorem signed_cases (i : Int64) :
    (∃ n : Nat, i.toInt = n ∧ (signed i).toList = (toString n).toList) ∨
      ∃ n : Nat, i.toInt = -n ∧ (signed i).toList = '-' :: (toString n).toList := by
  rw [signed]
  cases i.toInt with
  | ofNat n => exact .inl ⟨n, rfl, rfl⟩
  | negSucc n => exact .inr ⟨n + 1, rfl, String.toList_append⟩

theorem spelled_signed (i : Int64) : Signed (signed i).toList i.toInt := by
  rcases signed_cases i with ⟨n, value, same⟩ | ⟨n, value, same⟩
  · rw [same, value]
    exact .plain (digits_toString n)
  · rw [same, value]
    exact .minus (digits_toString n)

/-- Every signed number of 64 bits is read back from its numeral, the least included. -/
theorem readSigned?_signed (i : Int64) : readSigned? (signed i).toList = some i :=
  readSigned?_eq_some_iff.2 (spelled_signed i)

theorem signed_ne_nil (i : Int64) : (signed i).toList ≠ [] := by
  intro nothing
  have spelled := spelled_signed i
  rw [nothing] at spelled
  exact spelled.ne_nil rfl

theorem isNumeralChar_of_mem_signed {i : Int64} {c : Char} (h : c ∈ (signed i).toList) :
    isNumeralChar c = true := by
  rw [isNumeralChar, Bool.or_eq_true, beq_iff_eq]
  rcases signed_cases i with ⟨n, _, same⟩ | ⟨n, _, same⟩
  · rw [same] at h
    exact .inr (isDigit_of_mem_toString h)
  · rw [same] at h
    rcases List.mem_cons.1 h with minus | mem
    · exact .inl minus
    · exact .inr (isDigit_of_mem_toString mem)

/-! ## No spelling is shorter than the numeral -/

/-- So many digits stand for a number below that power of ten. -/
theorem ofDigitChars_lt {cs : List Char} (h : ∀ c ∈ cs, c.isDigit = true) :
    Nat.ofDigitChars 10 cs 0 < 10 ^ cs.length := by
  induction cs with
  | nil => decide
  | cons c cs ih =>
    have digit := toNat_of_isDigit (h c List.mem_cons_self)
    have others := ih fun d mem => h d (List.mem_cons_of_mem c mem)
    rw [Nat.ofDigitChars_cons, Nat.ofDigitChars_eq_ofDigitChars_zero, List.length_cons,
      Nat.pow_succ]
    have value : 10 * 0 + (c.toNat - '0'.toNat) ≤ 9 := by
      show 10 * 0 + (c.toNat - 48) ≤ 9
      omega
    calc 10 ^ cs.length * (10 * 0 + (c.toNat - '0'.toNat)) + Nat.ofDigitChars 10 cs 0
        < 10 ^ cs.length * (10 * 0 + (c.toNat - '0'.toNat)) + 10 ^ cs.length :=
          Nat.add_lt_add_left others _
      _ ≤ 10 ^ cs.length * 9 + 10 ^ cs.length :=
          Nat.add_le_add_right (Nat.mul_le_mul_left _ value) _
      _ = 10 ^ cs.length * 10 := by omega

theorem Digits.length_le {cs : List Char} {n : Nat} (h : Digits cs n) :
    (toString n).length ≤ cs.length := by
  have below := ofDigitChars_lt h.digit
  rw [h.value] at below
  rw [← String.length_toList, toList_toString_nat]
  exact (Nat.length_toDigits_le_iff (by decide) (List.length_pos_iff.2 h.ne_nil)).2 below

theorem Signed.length_le {cs : List Char} {z : Int} (h : Signed cs z) :
    (toString z).length ≤ cs.length := by
  cases h with
  | plain digits => exact digits.length_le
  | plus digits => exact Nat.le_succ_of_le digits.length_le
  | @minus cs n digits =>
    have length := digits.length_le
    cases n with
    | zero => exact Nat.le_succ_of_le length
    | succ n =>
      have written : toString (-((n + 1 : Nat) : Int)) = "-" ++ toString (n + 1) := rfl
      rw [written, String.length_append, List.length_cons, Nat.add_comm]
      exact Nat.add_le_add_right length 1

end TextCursor.Text
