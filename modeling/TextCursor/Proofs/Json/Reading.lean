import Mathlib.Data.List.Forall2
import Mathlib.Data.List.TakeWhile
import Mathlib.Tactic.SplitIfs
import TextCursor.Json.Number
import TextCursor.Json.StringLiteral

/-!
# Reading what is written

Strings and numbers are read back from what is written for them, whatever follows. A string may be
spelled in many ways: `Spells` lists those of one character, `readString_spelled` says that any mixture
of them is read, and `writeChar_spells` that what is written is among them. A natural number is read
from its digits as long as it fits 64 bits (`readNumeral_of_whole`).

Reading and passing over a string differ in what they make of an escape alone; `Takes` says what either
makes of a piece of a string, and `readChars_pieces` what of the whole.
-/

namespace TextCursor.Json

open Text (hexDigit?_digitChar)

/-! ## Space -/

/-- A text of nothing but space. -/
def Space (cs : List Char) : Prop :=
  ∀ c ∈ cs, isSpace c = true

instance (cs : List Char) : Decidable (Space cs) :=
  List.decidableBAll (fun c => isSpace c = true) cs

theorem space_nil : Space [] := nofun

theorem Space.skip {ws : List Char} (h : Space ws) (cs : List Char) :
    skipSpace (ws ++ cs) = skipSpace cs :=
  List.dropWhile_append_of_pos h

theorem skipSpace_cons {c : Char} (h : isSpace c = false) (cs : List Char) :
    skipSpace (c :: cs) = c :: cs := by
  rw [skipSpace, List.dropWhile_cons, h]
  rfl

theorem Space.skip_cons {ws : List Char} (h : Space ws) {c : Char} (visible : isSpace c = false)
    (cs : List Char) : skipSpace (ws ++ c :: cs) = c :: cs := by
  rw [h.skip, skipSpace_cons visible]

theorem skipSpace_eq_nil_iff {cs : List Char} : skipSpace cs = [] ↔ Space cs :=
  List.dropWhile_eq_nil_iff

theorem Space.skip_all {ws : List Char} (h : Space ws) : skipSpace ws = [] :=
  skipSpace_eq_nil_iff.2 h

theorem isSpace_of_isDigit {c : Char} (h : c.isDigit = true) : isSpace c = false := by
  by_contra space
  simp only [isSpace, Bool.not_eq_false, Bool.or_eq_true, beq_iff_eq] at space
  rcases space with ((rfl | rfl) | rfl) | rfl <;> cases h

/-! ## Pieces of strings -/

/-- What reading a string, with what it makes of escapes, takes from a piece of it: the piece is passed
in one step, and reading goes on behind it. -/
structure Takes (escape : List Char → Except ReadError (List Char × List Char))
    (piece taken : List Char) : Prop where
  ne_nil : piece ≠ []
  readChars : ∀ fuel rest, readChars escape (fuel + 1) (piece ++ rest) =
    (readChars escape fuel rest).map fun read => (taken ++ read.1, read.2)

section Pieces

variable {escape : List Char → Except ReadError (List Char × List Char)}

theorem takes_plain {c : Char} (quote : c ≠ '"') (backslash : c ≠ '\\') (control : ¬ c < ' ') :
    Takes escape [c] [c] where
  ne_nil := List.cons_ne_nil _ _
  readChars := by
    intro fuel rest
    rw [List.singleton_append, Json.readChars, if_neg quote, if_neg backslash, if_neg control]
    rfl

theorem takes_escape {cs taken : List Char}
    (h : ∀ rest, escape (cs ++ rest) = .ok (taken, rest)) : Takes escape ('\\' :: cs) taken where
  ne_nil := List.cons_ne_nil _ _
  readChars := by
    intro fuel rest
    rw [List.cons_append, Json.readChars, if_neg (by decide), if_pos rfl, h]
    simp only [bind, Except.bind]
    cases Json.readChars escape fuel rest with
    | error e => rfl
    | ok read => rfl

/-- Pieces one after another and a closing quote are read as what is taken from the pieces. -/
theorem readChars_pieces {ps ts : List (List Char)} (h : List.Forall₂ (Takes escape) ps ts)
    {fuel : Nat} (enough : ps.length < fuel) (rest : List Char) :
    readChars escape fuel (ps.flatten ++ '"' :: rest) = .ok (ts.flatten, rest) := by
  induction h generalizing fuel with
  | nil =>
    obtain ⟨fuel, rfl⟩ := Nat.exists_eq_add_of_lt enough
    rfl
  | @cons p t ps ts takes _ ih =>
    obtain ⟨fuel, rfl⟩ : ∃ k, fuel = k + 1 := ⟨fuel - 1, by omega⟩
    rw [List.length_cons] at enough
    rw [List.flatten_cons, List.append_assoc, takes.readChars, ih (by omega)]
    rfl

theorem length_le_flatten {ps ts : List (List Char)} (h : List.Forall₂ (Takes escape) ps ts) :
    ps.length ≤ ps.flatten.length := by
  induction h with
  | nil => exact Nat.le_refl 0
  | cons takes _ ih =>
    have := List.length_pos_iff.2 takes.ne_nil
    rw [List.length_cons, List.flatten_cons, List.length_append]
    omega

/-- A text of pieces is long enough to read all of them. -/
theorem readChars_of_pieces {ps ts : List (List Char)} (h : List.Forall₂ (Takes escape) ps ts)
    (rest : List Char) :
    readChars escape (ps.flatten ++ '"' :: rest).length (ps.flatten ++ '"' :: rest) =
      .ok (ts.flatten, rest) := by
  refine readChars_pieces h ?_ rest
  have := length_le_flatten h
  rw [List.length_append, List.length_cons]
  omega

end Pieces

/-! ## Spellings of characters -/

/-- The ways to spell a character inside a string: as itself, by a short escape, by its code unit or
by the two of a pair. -/
inductive Spells : List Char → Char → Prop
  | plain {c : Char} : c ≠ '"' → c ≠ '\\' → ¬ c < ' ' → Spells [c] c
  | short {e c : Char} : shortEscape? e = some c → Spells ['\\', e] c
  | unit {w x y z : Char} {n : Nat} : hexUnit? w x y z = some n → isLeading n = false →
    isTrailing n = false → Spells ['\\', 'u', w, x, y, z] (Char.ofNat n)
  | pair {w x y z w' x' y' z' : Char} {m n : Nat} : hexUnit? w x y z = some m →
    isLeading m = true → isTrailing m = false → hexUnit? w' x' y' z' = some n →
    isTrailing n = true →
    Spells ['\\', 'u', w, x, y, z, '\\', 'u', w', x', y', z']
      (Char.ofNat (0x10000 + (m - 0xD800) * 0x400 + (n - 0xDC00)))

theorem toNat_lt_or_gt (c : Char) : c.toNat < 0xD800 ∨ 0xDFFF < c.toNat ∧ c.toNat < 0x110000 :=
  c.valid

/-- A character of 16 bits may be spelled by its code unit. -/
theorem spells_unit {c w x y z : Char} (h : hexUnit? w x y z = some c.toNat) :
    Spells ['\\', 'u', w, x, y, z] c := by
  have valid := toNat_lt_or_gt c
  have spelled := Spells.unit h (by simp [isLeading]; omega) (by simp [isTrailing]; omega)
  rwa [Char.ofNat_toNat] at spelled

/-- A character beyond 16 bits may be spelled by its pair of code units. -/
theorem spells_pair {c w x y z w' x' y' z' : Char} (beyond : 0x10000 ≤ c.toNat)
    (first : hexUnit? w x y z = some (0xD800 + (c.toNat - 0x10000) / 0x400))
    (second : hexUnit? w' x' y' z' = some (0xDC00 + (c.toNat - 0x10000) % 0x400)) :
    Spells ['\\', 'u', w, x, y, z, '\\', 'u', w', x', y', z'] c := by
  have valid := toNat_lt_or_gt c
  have spelled := Spells.pair first (by simp [isLeading]; omega) (by simp [isTrailing]; omega) second
    (by simp [isTrailing]; omega)
  have value : 0x10000 + (0xD800 + (c.toNat - 0x10000) / 0x400 - 0xD800) * 0x400
      + (0xDC00 + (c.toNat - 0x10000) % 0x400 - 0xDC00) = c.toNat := by
    omega
  rwa [value, Char.ofNat_toNat] at spelled

theorem readUnit_of_hexUnit? {w x y z : Char} {n : Nat} (h : hexUnit? w x y z = some n)
    (rest : List Char) : readUnit (w :: x :: y :: z :: rest) = .ok (n, rest) := by
  rw [readUnit, h]

theorem readEscape_short {e c : Char} (h : shortEscape? e = some c) (rest : List Char) :
    readEscape (e :: rest) = .ok ([c], rest) := by
  have other : e ≠ 'u' := by
    rintro rfl
    cases h
  rw [readEscape, h]
  exact other

theorem readEscape_unit {w x y z : Char} {n : Nat} (h : hexUnit? w x y z = some n)
    (leading : isLeading n = false) (trailing : isTrailing n = false) (rest : List Char) :
    readEscape ('u' :: w :: x :: y :: z :: rest) = .ok ([Char.ofNat n], rest) := by
  rw [readEscape, readUnit_of_hexUnit? h]
  simp [bind, Except.bind, leading, trailing, pure, Except.pure]

theorem readEscape_pair {w x y z w' x' y' z' : Char} {m n : Nat} (h : hexUnit? w x y z = some m)
    (leading : isLeading m = true) (first : isTrailing m = false)
    (h' : hexUnit? w' x' y' z' = some n) (trailing : isTrailing n = true) (rest : List Char) :
    readEscape ('u' :: w :: x :: y :: z :: '\\' :: 'u' :: w' :: x' :: y' :: z' :: rest) =
      .ok ([Char.ofNat (0x10000 + (m - 0xD800) * 0x400 + (n - 0xDC00))], rest) := by
  rw [readEscape, readUnit_of_hexUnit? h]
  simp [bind, Except.bind, leading, first, readTrailing, readUnit_of_hexUnit? h', trailing, pure,
    Except.pure]

/-- A spelling is read as its character. -/
theorem Spells.takes {s : List Char} {c : Char} (h : Spells s c) : Takes readEscape s [c] := by
  cases h with
  | plain quote backslash control => exact takes_plain quote backslash control
  | short escape => exact takes_escape fun rest => readEscape_short escape rest
  | unit value leading trailing =>
    exact takes_escape fun rest => readEscape_unit value leading trailing rest
  | pair value leading first value' trailing =>
    exact takes_escape fun rest => readEscape_pair value leading first value' trailing rest

/-- Any spelling of a text is read as the text. -/
theorem readString_spelled {ss : List (List Char)} {cs : List Char}
    (h : List.Forall₂ Spells ss cs) (rest : List Char) :
    readString (ss.flatten ++ '"' :: rest) = .ok (cs, rest) := by
  have takes : List.Forall₂ (Takes readEscape) ss (cs.map fun c => [c]) :=
    List.forall₂_map_right_iff.2 (h.imp fun _ _ => Spells.takes)
  rw [readString, readChars_of_pieces takes, ← List.flatMap_def, List.flatMap_singleton']

/-! ## Written strings -/

/-- A control character is spelled by its code unit. -/
theorem hexUnit?_of_lt {n : Nat} (h : n < 32) :
    hexUnit? '0' '0' (Nat.digitChar (n / 16)) (Nat.digitChar (n % 16)) = some n := by
  rw [hexUnit?, hexDigit?_digitChar (n / 16) (by omega), hexDigit?_digitChar (n % 16) (by omega)]
  show some (((0 * 16 + 0) * 16 + n / 16) * 16 + n % 16) = some n
  rw [Option.some.injEq]
  omega

/-- What is written for a character is one of its spellings. -/
theorem writeChar_spells (c : Char) : Spells (writeChar c) c := by
  rw [writeChar]
  split_ifs with quote backslash backspace formFeed newline return_ tab control
  · subst quote; exact .short rfl
  · subst backslash; exact .short rfl
  · subst backspace; exact .short rfl
  · subst formFeed; exact .short rfl
  · subst newline; exact .short rfl
  · subst return_; exact .short rfl
  · subst tab; exact .short rfl
  · have small : c.toNat < 32 := control
    exact spells_unit (hexUnit?_of_lt small)
  · exact .plain quote backslash control

/-! ## Numbers -/

/-- The digits of a natural number: a zero alone, or digits that start with another one. -/
inductive Whole : List Char → Prop
  | zero : Whole ['0']
  | digits {c : Char} {cs : List Char} : c ≠ '0' → (∀ d ∈ c :: cs, d.isDigit = true) →
    Whole (c :: cs)

/-- A text that does not go on with a number before it. -/
def EndsNumber (rest : List Char) : Prop :=
  ∀ c, rest.head? = some c → c.isDigit = false ∧ c ≠ '.' ∧ c ≠ 'e' ∧ c ≠ 'E'

theorem endsNumber_nil : EndsNumber [] := nofun

theorem endsNumber_cons {c : Char} (digit : c.isDigit = false) (point : c ≠ '.') (e : c ≠ 'e')
    (E : c ≠ 'E') (rest : List Char) : EndsNumber (c :: rest) := by
  intro c' same
  cases same
  exact ⟨digit, point, e, E⟩

theorem endsNumber_comma (rest : List Char) : EndsNumber (',' :: rest) :=
  endsNumber_cons rfl (by decide) (by decide) (by decide) rest

theorem endsNumber_bracket (rest : List Char) : EndsNumber (']' :: rest) :=
  endsNumber_cons rfl (by decide) (by decide) (by decide) rest

theorem endsNumber_brace (rest : List Char) : EndsNumber ('\x7D' :: rest) :=
  endsNumber_cons rfl (by decide) (by decide) (by decide) rest

/-- The first digit that is written for a number is no zero, unless the number is. -/
theorem head_toDigits_ne_zero {n : Nat} {c : Char} {cs : List Char} (pos : 0 < n)
    (h : Nat.toDigits 10 n = c :: cs) : c ≠ '0' := by
  induction n using Nat.strongRecOn generalizing c cs with
  | ind n ih =>
    by_cases small : n < 10
    · rw [Nat.toDigits_of_lt_base small, List.cons.injEq] at h
      rw [← h.1, Ne, Nat.digitChar_eq_zero]
      omega
    · -- the first digit of a number of more digits is that of a tenth of it
      rw [Nat.toDigits_of_base_le (by decide) (by omega)] at h
      cases tenth : Nat.toDigits 10 (n / 10) with
      | nil => exact absurd tenth Nat.toDigits_ne_nil
      | cons d ds =>
        rw [tenth, List.cons_append, List.cons.injEq] at h
        exact h.1 ▸ ih (n / 10) (by omega) (by omega) tenth

theorem whole_toDigits (n : Nat) : Whole (Nat.toDigits 10 n) := by
  rcases Nat.eq_zero_or_pos n with rfl | pos
  · rw [Nat.toDigits_zero]
    exact .zero
  · have digits : ∀ d ∈ Nat.toDigits 10 n, d.isDigit = true :=
      fun d mem => Nat.isDigit_of_mem_toDigits (by decide) (by decide) mem
    cases h : Nat.toDigits 10 n with
    | nil => exact absurd h Nat.toDigits_ne_nil
    | cons c cs => exact .digits (head_toDigits_ne_zero pos h) (h ▸ digits)

theorem Whole.isDigit {ds : List Char} (h : Whole ds) : ∀ d ∈ ds, d.isDigit = true := by
  cases h with
  | zero =>
    intro d mem
    rw [List.mem_singleton.1 mem]
    rfl
  | digits _ all => exact all

/-- A text that does not begin with a digit. -/
def NoDigitAhead (rest : List Char) : Prop :=
  ∀ c, rest.head? = some c → c.isDigit = false

theorem noDigitAhead_cons {c : Char} (h : c.isDigit = false) (cs : List Char) :
    NoDigitAhead (c :: cs) := by
  intro c' same
  cases same
  exact h

theorem EndsNumber.noDigitAhead {rest : List Char} (h : EndsNumber rest) : NoDigitAhead rest :=
  fun c same => (h c same).1

/-- Just the digits at the start of a text are taken. -/
theorem takeWhile_digits {ds rest : List Char} (digits : ∀ d ∈ ds, d.isDigit = true)
    (ends : NoDigitAhead rest) : (ds ++ rest).takeWhile Char.isDigit = ds := by
  rw [List.takeWhile_append_of_pos digits]
  cases rest with
  | nil => simp
  | cons c cs => simp [ends c rfl]

theorem dropWhile_digits {ds rest : List Char} (digits : ∀ d ∈ ds, d.isDigit = true)
    (ends : NoDigitAhead rest) : (ds ++ rest).dropWhile Char.isDigit = rest := by
  rw [List.dropWhile_append_of_pos digits]
  cases rest with
  | nil => rfl
  | cons c cs => simp [ends c rfl]

theorem readWhole_append {ds rest : List Char} (h : Whole ds) (ends : NoDigitAhead rest) :
    readWhole (ds ++ rest) = .ok (ds, rest) := by
  cases h with
  | zero =>
    cases rest with
    | nil => rfl
    | cons c cs => simp [readWhole, ends c rfl]
  | @digits c cs head all =>
    have digit : c.isDigit = true := all c List.mem_cons_self
    have others : ∀ d ∈ cs, d.isDigit = true := fun d mem => all d (List.mem_cons_of_mem c mem)
    rw [List.cons_append, readWhole, if_pos digit, takeWhile_digits others ends,
      dropWhile_digits others ends]
    exact head

theorem le_ofDigitChars (cs : List Char) (n : Nat) : n ≤ Nat.ofDigitChars 10 cs n := by
  induction cs generalizing n with
  | nil => exact Nat.le_refl n
  | cons c cs ih =>
    rw [Nat.ofDigitChars_cons]
    have := ih (10 * n + (c.toNat - '0'.toNat))
    omega

/-- All digits of a number that fits 64 bits are taken. -/
theorem takeDigits_of_lt {cs : List Char} {n : Nat}
    (fits : Nat.ofDigitChars 10 cs n < Text.wordLimit) :
    takeDigits n cs = (Nat.ofDigitChars 10 cs n, []) := by
  induction cs generalizing n with
  | nil => rfl
  | cons c cs ih =>
    rw [Nat.ofDigitChars_cons] at fits ⊢
    have := le_ofDigitChars cs (10 * n + (c.toNat - '0'.toNat))
    show (if 10 * n + (c.toNat - '0'.toNat) < Text.wordLimit then _ else _) = _
    rw [if_pos (by omega), ih fits]

/-- Without further digits or an exponent no number is too great. -/
theorem isTooGreat_of_lt {ds : List Char} (fits : Nat.ofDigitChars 10 ds 0 < Text.wordLimit) :
    (Numeral.mk ds none none).isTooGreat = false := by
  rw [Numeral.isTooGreat, takeDigits_of_lt fits]
  simp [takeDigits, overflows]

/-- A natural number of 64 bits is read from its digits. -/
theorem readNumeral_of_whole {ds rest : List Char} (h : Whole ds)
    (fits : Nat.ofDigitChars 10 ds 0 < Text.wordLimit) (ends : EndsNumber rest) :
    readNumeral (ds ++ rest) = .ok (⟨ds, none, none⟩, rest) := by
  have fraction : readFraction rest = .ok (none, rest) := by
    cases rest with
    | nil => rfl
    | cons c cs =>
      rw [readFraction]
      intro cs' same
      cases same
      exact (ends '.' rfl).2.1 rfl
  have exponent : readExponent rest = .ok (none, rest) := by
    cases rest with
    | nil => rfl
    | cons c cs =>
      obtain ⟨_, _, e, E⟩ := ends c rfl
      simp [readExponent, e, E]
  have small := isTooGreat_of_lt fits
  rw [readNumeral, readWhole_append h ends.noDigitAhead]
  simp [bind, Except.bind, fraction, exponent, small, pure, Except.pure]

theorem word?_of_lt {ds : List Char} (fits : Nat.ofDigitChars 10 ds 0 < Text.wordLimit) :
    (Numeral.mk ds none none).word? = some (Nat.ofDigitChars 10 ds 0) := by
  simp [Numeral.word?, fits]

end TextCursor.Json
