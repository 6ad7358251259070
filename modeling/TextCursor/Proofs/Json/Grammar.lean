import TextCursor.Json.Skip
import TextCursor.Proofs.Json.Reading
import TextCursor.Proofs.Text.Numeral

/-!
# The grammar of JSON

`WellFormed` says which texts are JSON values, of any kind and any nesting, with space wherever it may
stand. `WellFormed.skipValue` says that each of them can be passed over, whatever follows it.

A number has no end of its own, so what follows a value must not go on with one (`EndsNumber`).
-/

namespace TextCursor.Json

/-! ## Numbers -/

/-- The fractional part of a number, or nothing. -/
inductive Fraction : List Char → Prop
  | none : Fraction []
  | some {ds : List Char} {n : Nat} : Text.Digits ds n → Fraction ('.' :: ds)

/-- The exponent of a number, or nothing. -/
inductive Exponent : List Char → Prop
  | none : Exponent []
  | some {e : Char} {sign ds : List Char} {n : Nat} : e = 'e' ∨ e = 'E' →
    sign = [] ∨ sign = ['+'] ∨ sign = ['-'] → Text.Digits ds n → Exponent (e :: (sign ++ ds))

/-- The parts of a number as it is written. -/
structure Number (sign whole fraction exponent : List Char) : Prop where
  sign : sign = [] ∨ sign = ['-']
  whole : Whole whole
  fraction : Fraction fraction
  exponent : Exponent exponent

/-- A text that goes on neither with digits nor with a fractional part. -/
def NoFractionAhead (rest : List Char) : Prop :=
  ∀ c, rest.head? = some c → c.isDigit = false ∧ c ≠ '.'

theorem NoFractionAhead.noDigitAhead {rest : List Char} (h : NoFractionAhead rest) :
    NoDigitAhead rest :=
  fun c same => (h c same).1

/-- What stands behind the fractional part is no part of it. -/
theorem Exponent.noFractionAhead {es rest : List Char} (h : Exponent es) (ends : EndsNumber rest) :
    NoFractionAhead (es ++ rest) := by
  cases h with
  | none => exact fun c same => ⟨(ends c same).1, (ends c same).2.1⟩
  | some e =>
    intro c same
    cases same
    rcases e with rfl | rfl <;> decide

/-- What stands behind the whole part is no part of it. -/
theorem Fraction.noDigitAhead {fs rest : List Char} (h : Fraction fs) (ends : NoFractionAhead rest) :
    NoDigitAhead (fs ++ rest) := by
  cases h with
  | none => exact ends.noDigitAhead
  | some digits => exact noDigitAhead_cons rfl _

/-- The first character of digits is told from a sign. -/
theorem exists_cons_of_digits {ds : List Char} {n : Nat} (h : Text.Digits ds n) :
    ∃ d more, ds = d :: more ∧ d.isDigit = true ∧ (∀ e ∈ more, e.isDigit = true) ∧
      d ≠ '+' ∧ d ≠ '-' := by
  cases ds with
  | nil => exact absurd rfl h.ne_nil
  | cons d more =>
    obtain ⟨plus, minus⟩ := h.head_ne
    exact ⟨d, more, rfl, h.digit d List.mem_cons_self,
      fun e mem => h.digit e (List.mem_cons_of_mem d mem), plus, minus⟩

/-! ### Reading numbers -/

theorem readDigits_append {ds rest : List Char} {n : Nat} (h : Text.Digits ds n)
    (ends : NoDigitAhead rest) : readDigits (ds ++ rest) = .ok (ds, rest) := by
  obtain ⟨d, more, rfl, digit, others, -, -⟩ := exists_cons_of_digits h
  rw [List.cons_append, readDigits, if_pos digit, takeWhile_digits others ends,
    dropWhile_digits others ends]

theorem readFraction_append {fs rest : List Char} (h : Fraction fs) (ends : NoFractionAhead rest) :
    ∃ fraction, readFraction (fs ++ rest) = .ok (fraction, rest) ∧ (fraction = none ↔ fs = []) := by
  cases h with
  | none =>
    refine ⟨none, ?_, by simp⟩
    cases rest with
    | nil => rfl
    | cons c cs =>
      rw [List.nil_append, readFraction]
      intro cs' same
      cases same
      exact (ends '.' rfl).2 rfl
  | @some ds n digits =>
    refine ⟨some ds, ?_, by simp⟩
    rw [List.cons_append, readFraction, readDigits_append digits ends.noDigitAhead]
    rfl

theorem readExponent_append {es rest : List Char} (h : Exponent es) (ends : EndsNumber rest) :
    ∃ exponent, readExponent (es ++ rest) = .ok (exponent, rest) ∧ (exponent = none ↔ es = []) := by
  cases h with
  | none =>
    refine ⟨none, ?_, by simp⟩
    cases rest with
    | nil => rfl
    | cons c cs =>
      obtain ⟨_, _, e, E⟩ := ends c rfl
      simp [readExponent, e, E]
  | @some e sign ds n letter signed digits =>
    have read := readDigits_append digits ends.noDigitAhead
    have letter' : (e = 'e' || e = 'E') = true := by simpa using letter
    rw [List.cons_append, List.append_assoc]
    rcases signed with rfl | rfl | rfl
    · obtain ⟨d, more, rfl, -, -, plus, minus⟩ := exists_cons_of_digits digits
      rw [List.nil_append, readExponent, if_pos letter', read]
      · exact ⟨_, rfl, by simp⟩
      · rintro _ ⟨⟩
        exact minus rfl
      · rintro _ ⟨⟩
        exact plus rfl
    · rw [List.singleton_append, readExponent, if_pos letter', read]
      exact ⟨_, rfl, by simp⟩
    · rw [List.singleton_append, readExponent, if_pos letter', read]
      exact ⟨_, rfl, by simp⟩

/-- The parts of a number are read as they stand; then it may be found too great. -/
theorem Number.readNumeral {sign whole fraction exponent rest : List Char}
    (h : Number sign whole fraction exponent) (ends : EndsNumber rest) :
    ∃ n : Numeral, n.whole = whole ∧ (n.fraction = none ↔ fraction = []) ∧
      (n.exponent = none ↔ exponent = []) ∧
      readNumeral (whole ++ (fraction ++ (exponent ++ rest))) =
        if n.isTooGreat then .error .malformed else .ok (n, rest) := by
  have behind := h.exponent.noFractionAhead ends
  have first := readWhole_append h.whole (h.fraction.noDigitAhead behind)
  obtain ⟨f, second, absent⟩ := readFraction_append h.fraction behind
  obtain ⟨e, third, absent'⟩ := readExponent_append h.exponent ends
  refine ⟨⟨whole, f, e⟩, rfl, absent, absent', ?_⟩
  simp only [Json.readNumeral, first, second, third, bind, Except.bind]
  rfl

/-! ### Passing over numbers -/

theorem skipDigits_append {ds rest : List Char} {n : Nat} (h : Text.Digits ds n)
    (ends : NoDigitAhead rest) : skipDigits (ds ++ rest) = .ok ((), rest) := by
  obtain ⟨d, more, rfl, digit, others, -, -⟩ := exists_cons_of_digits h
  rw [List.cons_append, skipDigits, if_pos digit, dropWhile_digits others ends]

theorem skipExponent_append {es rest : List Char} (h : Exponent es) (ends : EndsNumber rest) :
    skipExponent (es ++ rest) = .ok ((), rest) := by
  cases h with
  | none =>
    cases rest with
    | nil => rfl
    | cons c cs =>
      obtain ⟨_, _, e, E⟩ := ends c rfl
      simp [skipExponent, e, E]
  | @some e sign ds n letter signed digits =>
    have skip := skipDigits_append digits ends.noDigitAhead
    have letter' : (e = 'e' || e = 'E') = true := by simpa using letter
    rw [List.cons_append, List.append_assoc]
    rcases signed with rfl | rfl | rfl
    · obtain ⟨d, more, rfl, -, -, plus, minus⟩ := exists_cons_of_digits digits
      rw [List.nil_append, skipExponent, if_pos letter', skip]
      · rintro _ ⟨⟩
        exact minus rfl
      · rintro _ ⟨⟩
        exact plus rfl
    · rw [List.singleton_append, skipExponent, if_pos letter', skip]
    · rw [List.singleton_append, skipExponent, if_pos letter', skip]

/-- What is passed over behind the whole part of a number. -/
def skipFraction (rest : List Char) : Except ReadError (Unit × List Char) :=
  match rest with
  | '.' :: rest => do
    let (_, rest) ← skipDigits rest
    skipExponent rest
  | _ => skipExponent rest

theorem skipNumber_append {whole rest : List Char} (h : Whole whole) (ends : NoDigitAhead rest) :
    skipNumber (whole ++ rest) = skipFraction rest := by
  cases h with
  | zero =>
    have none : ((rest.head?.map Char.isDigit).getD false) = false := by
      cases rest with
      | nil => rfl
      | cons c cs => exact ends c rfl
    rw [List.singleton_append, skipNumber]
    simp only [none]
    rfl
  | @digits c cs head all =>
    have skip := skipDigits_append ⟨List.cons_ne_nil c cs, all, rfl⟩ ends
    rw [skipNumber, skip]
    · rfl
    · rintro _ ⟨⟩
      exact head rfl

theorem Number.skipNumber {sign whole fraction exponent rest : List Char}
    (h : Number sign whole fraction exponent) (ends : EndsNumber rest) :
    skipNumber (whole ++ (fraction ++ (exponent ++ rest))) = .ok ((), rest) := by
  have behind := h.exponent.noFractionAhead ends
  have skip := skipExponent_append h.exponent ends
  rw [skipNumber_append h.whole (h.fraction.noDigitAhead behind)]
  cases h.fraction with
  | none =>
    rw [List.nil_append, skipFraction, skip]
    intro cs same
    exact (behind '.' (by rw [same]; rfl)).2 rfl
  | some digits =>
    rw [List.cons_append, skipFraction, skipDigits_append digits behind.noDigitAhead]
    exact skip

/-! ## Strings -/

/-- A text between quotes, in any spelling. -/
inductive Quoted : (spelled : List Char) → (text : List Char) → Prop
  | mk {ss : List (List Char)} {cs : List Char} : List.Forall₂ Spells ss cs →
    Quoted ('"' :: (ss.flatten ++ ['"'])) cs

theorem quoted_writeString (cs : List Char) : Quoted (writeString cs) cs := by
  have spelled : List.Forall₂ Spells (cs.map writeChar) cs :=
    List.forall₂_map_left_iff.2 (List.forall₂_same.2 fun c _ => writeChar_spells c)
  rw [writeString, List.cons_append, List.flatMap_def]
  exact .mk spelled

/-- The parts of a string that nobody asked for. Its code units need not be those of a text. -/
inductive Part : List Char → Prop
  | plain {c : Char} : c ≠ '"' → c ≠ '\\' → ¬ c < ' ' → Part [c]
  | short {e c : Char} : shortEscape? e = some c → Part ['\\', e]
  | unit {w x y z : Char} {n : Nat} : hexUnit? w x y z = some n → Part ['\\', 'u', w, x, y, z]

/-- Any string between quotes. -/
inductive Literal : List Char → Prop
  | mk {ps : List (List Char)} : (∀ p ∈ ps, Part p) → Literal ('"' :: (ps.flatten ++ ['"']))

theorem Quoted.readString {s cs : List Char} (h : Quoted s cs) (rest : List Char) :
    ∃ inside, s ++ rest = '"' :: inside ∧ readString inside = .ok (cs, rest) := by
  cases h with
  | @mk ss cs spelled =>
    refine ⟨ss.flatten ++ '"' :: rest, ?_, readString_spelled spelled rest⟩
    rw [List.cons_append, List.append_assoc, List.singleton_append]

theorem Part.takes {p : List Char} (h : Part p) : ∃ taken, Takes skipEscape p taken := by
  cases h with
  | plain quote backslash control => exact ⟨_, takes_plain quote backslash control⟩
  | @short e c escape =>
    refine ⟨[], takes_escape fun rest => ?_⟩
    have other : e ≠ 'u' := by
      rintro rfl
      cases escape
    rw [List.singleton_append, skipEscape, escape]
    · rfl
    · exact other
  | unit value =>
    refine ⟨[], takes_escape fun rest => ?_⟩
    show skipEscape ('u' :: _ :: _ :: _ :: _ :: rest) = _
    rw [skipEscape, readUnit_of_hexUnit? value]
    rfl

theorem exists_takes {ps : List (List Char)} (h : ∀ p ∈ ps, Part p) :
    ∃ ts, List.Forall₂ (Takes skipEscape) ps ts := by
  induction ps with
  | nil => exact ⟨[], .nil⟩
  | cons p ps ih =>
    obtain ⟨t, takes⟩ := (h p List.mem_cons_self).takes
    obtain ⟨ts, others⟩ := ih fun q mem => h q (List.mem_cons_of_mem p mem)
    exact ⟨t :: ts, .cons takes others⟩

theorem Literal.skipString {s : List Char} (h : Literal s) (rest : List Char) :
    ∃ inside taken, s ++ rest = '"' :: inside ∧ skipString inside = .ok (taken, rest) := by
  cases h with
  | @mk ps parts =>
    obtain ⟨ts, takes⟩ := exists_takes parts
    refine ⟨ps.flatten ++ '"' :: rest, ts.flatten, ?_, readChars_of_pieces takes rest⟩
    rw [List.cons_append, List.append_assoc, List.singleton_append]

/-! ## Values -/

/-- The texts of a value, and those of what is left of an array from an element on, or of an object from
a member on, up to and with its end. Space may stand around elements, names and values. -/
inductive WellFormed : Skipping → List Char → Prop
  | word {w : String} : w ∈ ["null", "true", "false"] → WellFormed .value w.toList
  | number {sign whole fraction exponent : List Char} : Number sign whole fraction exponent →
    WellFormed .value (sign ++ (whole ++ (fraction ++ exponent)))
  | string {s : List Char} : Literal s → WellFormed .value s
  | emptyArray {ws : List Char} : Space ws → WellFormed .value ('[' :: (ws ++ [']']))
  | array {ws cs : List Char} : Space ws → WellFormed .items cs → WellFormed .value ('[' :: (ws ++ cs))
  | emptyObject {ws : List Char} : Space ws → WellFormed .value ('\x7B' :: (ws ++ ['\x7D']))
  | object {ws cs : List Char} : Space ws → WellFormed .members cs →
    WellFormed .value ('\x7B' :: (ws ++ cs))
  | lastItem {v ws : List Char} : WellFormed .value v → Space ws →
    WellFormed .items (v ++ (ws ++ [']']))
  | item {v ws₁ ws₂ cs : List Char} : WellFormed .value v → Space ws₁ → Space ws₂ →
    WellFormed .items cs → WellFormed .items (v ++ (ws₁ ++ ',' :: (ws₂ ++ cs)))
  | lastMember {name v ws₁ ws₂ ws₃ : List Char} : Literal name → Space ws₁ → Space ws₂ →
    WellFormed .value v → Space ws₃ →
    WellFormed .members (name ++ (ws₁ ++ ':' :: (ws₂ ++ (v ++ (ws₃ ++ ['\x7D'])))))
  | member {name v ws₁ ws₂ ws₃ ws₄ cs : List Char} : Literal name → Space ws₁ → Space ws₂ →
    WellFormed .value v → Space ws₃ → Space ws₄ → WellFormed .members cs →
    WellFormed .members (name ++ (ws₁ ++ ':' :: (ws₂ ++ (v ++ (ws₃ ++ ',' :: (ws₄ ++ cs))))))

theorem Whole.ne_nil {ds : List Char} (h : Whole ds) : ds ≠ [] := by
  cases h <;> exact List.cons_ne_nil _ _

theorem Number.head {sign whole fraction exponent : List Char}
    (h : Number sign whole fraction exponent) (rest : List Char) :
    ∃ c more, sign ++ (whole ++ rest) = c :: more ∧ (c = '-' ∨ c.isDigit = true) := by
  rcases h.sign with rfl | rfl
  · obtain ⟨d, ds, rfl⟩ : ∃ d ds, whole = d :: ds := List.exists_cons_of_ne_nil h.whole.ne_nil
    exact ⟨d, ds ++ rest, rfl, .inr (h.whole.isDigit d List.mem_cons_self)⟩
  · exact ⟨'-', whole ++ rest, rfl, .inl rfl⟩

/-- A value begins with a character that is neither space nor the end of an array or object, and so do
elements and members. -/
theorem WellFormed.head {k : Skipping} {cs : List Char} (h : WellFormed k cs) :
    ∃ c more, cs = c :: more ∧ isSpace c = false ∧ c ≠ ']' ∧ c ≠ '\x7D' := by
  have literal {s : List Char} (h : Literal s) (rest : List Char) :
      ∃ c more, s ++ rest = c :: more ∧ isSpace c = false ∧ c ≠ ']' ∧ c ≠ '\x7D' := by
    obtain ⟨inside, _, same, _⟩ := h.skipString rest
    exact ⟨'"', inside, same, rfl, by decide, by decide⟩
  induction h with
  | word h =>
    simp only [List.mem_cons, List.not_mem_nil, or_false] at h
    rcases h with rfl | rfl | rfl <;> exact ⟨_, _, rfl, rfl, by decide, by decide⟩
  | number h =>
    obtain ⟨c, more, same, minus | digit⟩ := h.head _
    · subst minus
      exact ⟨'-', more, same, rfl, by decide, by decide⟩
    · refine ⟨c, more, same, isSpace_of_isDigit digit, ?_, ?_⟩ <;> rintro rfl <;> cases digit
  | string h => simpa using literal h []
  | lastItem _ _ ih =>
    obtain ⟨c, more, rfl, visible⟩ := ih
    exact ⟨c, _, rfl, visible⟩
  | item _ _ _ _ ih =>
    obtain ⟨c, more, rfl, visible⟩ := ih
    exact ⟨c, _, rfl, visible⟩
  | lastMember h => exact literal h _
  | member h => exact literal h _
  | _ => exact ⟨_, _, rfl, rfl, by decide, by decide⟩

/-! ### One step of passing over -/

theorem Space.endsNumber {ws rest : List Char} (h : Space ws) (ends : EndsNumber rest) :
    EndsNumber (ws ++ rest) := by
  cases ws with
  | nil => exact ends
  | cons w ws =>
    intro c same
    cases same
    have space := h w List.mem_cons_self
    refine ⟨?_, ?_, ?_, ?_⟩
    · rw [← Bool.not_eq_true]
      intro digit
      rw [isSpace_of_isDigit digit] at space
      cases space
    all_goals
      rintro rfl
      cases space

section Steps

variable {fuel : Nat} {cs rest more : List Char} {c : Char}

theorem skipFrom_emptyArray (inside : skipSpace cs = ']' :: more) :
    skipFrom (fuel + 1) .value ('[' :: cs) = .ok ((), more) := by
  rw [skipFrom, skipSpace_cons rfl]
  simp only [inside]

theorem skipFrom_emptyObject (inside : skipSpace cs = '\x7D' :: more) :
    skipFrom (fuel + 1) .value ('\x7B' :: cs) = .ok ((), more) := by
  rw [skipFrom, skipSpace_cons rfl]
  simp only [inside]

theorem skipFrom_array (inside : skipSpace cs = c :: more) (other : c ≠ ']') :
    skipFrom (fuel + 1) .value ('[' :: cs) = skipFrom fuel .items (c :: more) := by
  rw [skipFrom, skipSpace_cons rfl]
  simp [inside, other]

theorem skipFrom_object (inside : skipSpace cs = c :: more) (other : c ≠ '\x7D') :
    skipFrom (fuel + 1) .value ('\x7B' :: cs) = skipFrom fuel .members (c :: more) := by
  rw [skipFrom, skipSpace_cons rfl]
  simp [inside, other]

theorem skipFrom_items (value : skipFrom fuel .value cs = .ok ((), rest)) :
    (skipSpace rest = ']' :: more → skipFrom (fuel + 1) .items cs = .ok ((), more)) ∧
    (skipSpace rest = ',' :: more → skipFrom (fuel + 1) .items cs = skipFrom fuel .items more) := by
  constructor
  · intro behind
    simp only [skipFrom, value, bind, Except.bind, behind]
    rfl
  · intro behind
    simp only [skipFrom, value, bind, Except.bind, behind]

theorem skipFrom_members {taken after valued : List Char}
    (name : skipString cs = .ok (taken, after)) (colon : skipSpace after = ':' :: valued)
    (value : skipFrom fuel .value valued = .ok ((), rest)) :
    (skipSpace rest = '\x7D' :: more →
      skipFrom (fuel + 1) .members ('"' :: cs) = .ok ((), more)) ∧
    (skipSpace rest = ',' :: more →
      skipFrom (fuel + 1) .members ('"' :: cs) = skipFrom fuel .members more) := by
  constructor
  · intro behind
    rw [skipFrom, skipSpace_cons rfl]
    simp only [name, colon, value, bind, Except.bind, behind]
    rfl
  · intro behind
    rw [skipFrom, skipSpace_cons rfl]
    simp only [name, colon, value, bind, Except.bind, behind]

/-- Space before what is to be passed over makes no difference. -/
theorem Space.skipFrom {ws : List Char} (h : Space ws) (fuel : Nat) (k : Skipping)
    (cs : List Char) : skipFrom fuel k (ws ++ cs) = skipFrom fuel k cs := by
  have value (fuel : Nat) : Json.skipFrom fuel .value (ws ++ cs) = Json.skipFrom fuel .value cs := by
    cases fuel with
    | zero => rfl
    | succ fuel => rw [Json.skipFrom, Json.skipFrom, h.skip]
  cases fuel with
  | zero => rfl
  | succ fuel =>
    cases k with
    | value => exact value (fuel + 1)
    | items => rw [Json.skipFrom, Json.skipFrom, value]
    | members => rw [Json.skipFrom, Json.skipFrom, h.skip]

end Steps

/-! ### Passing over whole values -/

theorem skipFrom_word {w : String} (h : w ∈ ["null", "true", "false"]) (fuel : Nat)
    (rest : List Char) : skipFrom (fuel + 1) .value (w.toList ++ rest) = .ok ((), rest) := by
  simp only [List.mem_cons, List.not_mem_nil, or_false] at h
  rcases h with rfl | rfl | rfl <;> rfl

theorem skipFrom_of_isDigit {c : Char} (digit : c.isDigit = true) (fuel : Nat) (cs : List Char) :
    skipFrom (fuel + 1) .value (c :: cs) = skipNumber (c :: cs) := by
  rw [skipFrom, skipSpace_cons (isSpace_of_isDigit digit)]
  split
  case h_1 same => cases same
  case h_9 same =>
    cases same
    rw [if_pos digit]
  -- the other cases are those of characters that are no digits
  all_goals
    rename_i same
    cases same
    cases digit

theorem Number.skipFrom {sign whole fraction exponent rest : List Char}
    (h : Number sign whole fraction exponent) (ends : EndsNumber rest) (fuel : Nat) :
    skipFrom (fuel + 1) .value (sign ++ (whole ++ (fraction ++ (exponent ++ rest)))) =
      .ok ((), rest) := by
  have skip := h.skipNumber ends
  rcases h.sign with rfl | rfl
  · obtain ⟨d, ds, rfl⟩ : ∃ d ds, whole = d :: ds := List.exists_cons_of_ne_nil h.whole.ne_nil
    exact (skipFrom_of_isDigit (h.whole.isDigit d List.mem_cons_self) fuel _).trans skip
  · exact skip

theorem Literal.skipFrom {s : List Char} (h : Literal s) (fuel : Nat) (rest : List Char) :
    skipFrom (fuel + 1) .value (s ++ rest) = .ok ((), rest) := by
  obtain ⟨inside, taken, same, skip⟩ := h.skipString rest
  rw [same, Json.skipFrom, skipSpace_cons rfl]
  simp only [skip]
  rfl

theorem WellFormed.length_pos {k : Skipping} {cs : List Char} (h : WellFormed k cs) :
    0 < cs.length := by
  obtain ⟨c, more, rfl, -⟩ := h.head
  exact Nat.succ_pos _

/-- What is well-formed has a character, so that passing over it can take a step. -/
theorem exists_fuel {k : Skipping} {cs : List Char} (h : WellFormed k cs) {fuel : Nat}
    (enough : 2 * cs.length ≤ fuel) : ∃ less, fuel = less + 1 := by
  have := h.length_pos
  exact ⟨fuel - 1, by omega⟩

/-- Whatever is well-formed is passed over. Each two steps take a character. -/
theorem WellFormed.skipFrom {k : Skipping} {cs : List Char} (h : WellFormed k cs) {fuel : Nat}
    (enough : 2 * cs.length ≤ fuel) {rest : List Char} (ends : EndsNumber rest) :
    skipFrom fuel k (cs ++ rest) = .ok ((), rest) := by
  induction h generalizing fuel rest with
  | word h =>
    obtain ⟨fuel, rfl⟩ := exists_fuel (.word h) enough
    exact skipFrom_word h fuel rest
  | number h =>
    obtain ⟨fuel, rfl⟩ := exists_fuel (.number h) enough
    simpa only [List.append_assoc] using h.skipFrom ends fuel
  | string h =>
    obtain ⟨fuel, rfl⟩ := exists_fuel (.string h) enough
    exact h.skipFrom fuel rest
  | emptyArray space =>
    obtain ⟨fuel, rfl⟩ := exists_fuel (.emptyArray space) enough
    rw [List.cons_append, List.append_assoc]
    exact skipFrom_emptyArray (space.skip_cons rfl rest)
  | array space items ih =>
    obtain ⟨fuel, rfl⟩ := exists_fuel (.array space items) enough
    obtain ⟨c, more, rfl, visible, other, -⟩ := items.head
    simp only [List.length_cons, List.length_append] at enough
    have inside := ih (by rw [List.length_cons]; omega : 2 * (c :: more).length ≤ fuel) ends
    rw [List.cons_append, List.append_assoc]
    exact (skipFrom_array (space.skip_cons visible (more ++ rest)) other).trans inside
  | emptyObject space =>
    obtain ⟨fuel, rfl⟩ := exists_fuel (.emptyObject space) enough
    rw [List.cons_append, List.append_assoc]
    exact skipFrom_emptyObject (space.skip_cons rfl rest)
  | object space members ih =>
    obtain ⟨fuel, rfl⟩ := exists_fuel (.object space members) enough
    obtain ⟨c, more, rfl, visible, -, other⟩ := members.head
    simp only [List.length_cons, List.length_append] at enough
    have inside := ih (by rw [List.length_cons]; omega : 2 * (c :: more).length ≤ fuel) ends
    rw [List.cons_append, List.append_assoc]
    exact (skipFrom_object (space.skip_cons visible (more ++ rest)) other).trans inside
  | @lastItem v ws value space ih =>
    obtain ⟨fuel, rfl⟩ := exists_fuel (.lastItem value space) enough
    simp only [List.length_cons, List.length_append] at enough
    have first := ih (by omega : 2 * v.length ≤ fuel) (space.endsNumber (endsNumber_bracket rest))
    rw [List.append_assoc, List.append_assoc]
    exact (skipFrom_items first).1 (space.skip_cons rfl rest)
  | @item v ws₁ ws₂ cs value space₁ space₂ items ih ih' =>
    obtain ⟨fuel, rfl⟩ := exists_fuel (.item value space₁ space₂ items) enough
    have := value.length_pos
    simp only [List.length_cons, List.length_append] at enough
    have first := ih (by omega : 2 * v.length ≤ fuel)
      (space₁.endsNumber (endsNumber_comma (ws₂ ++ (cs ++ rest))))
    have others := ih' (by omega : 2 * cs.length ≤ fuel) ends
    have behind := space₁.skip_cons (c := ',') rfl (ws₂ ++ (cs ++ rest))
    simp only [List.append_assoc, List.cons_append]
    rw [(skipFrom_items first).2 behind, space₂.skipFrom, others]
  | @lastMember name v ws₁ ws₂ ws₃ named space₁ space₂ value space₃ ih =>
    obtain ⟨fuel, rfl⟩ := exists_fuel (.lastMember named space₁ space₂ value space₃) enough
    simp only [List.length_cons, List.length_append] at enough
    have first := ih (by omega : 2 * v.length ≤ fuel) (space₃.endsNumber (endsNumber_brace rest))
    rw [← space₂.skipFrom] at first
    obtain ⟨inside, taken, same, skip⟩ := named.skipString
      (ws₁ ++ ':' :: (ws₂ ++ (v ++ (ws₃ ++ '\x7D' :: rest))))
    simp only [List.append_assoc, List.cons_append, List.nil_append, same]
    exact (skipFrom_members skip (space₁.skip_cons rfl _) first).1 (space₃.skip_cons rfl rest)
  | @member name v ws₁ ws₂ ws₃ ws₄ cs named space₁ space₂ value space₃ space₄ members ih ih' =>
    obtain ⟨fuel, rfl⟩ :=
      exists_fuel (.member named space₁ space₂ value space₃ space₄ members) enough
    simp only [List.length_cons, List.length_append] at enough
    have first := ih (by omega : 2 * v.length ≤ fuel)
      (space₃.endsNumber (endsNumber_comma (ws₄ ++ (cs ++ rest))))
    have others := ih' (by omega : 2 * cs.length ≤ fuel) ends
    rw [← space₂.skipFrom] at first
    rw [← space₄.skipFrom] at others
    obtain ⟨inside, taken, same, skip⟩ := named.skipString
      (ws₁ ++ ':' :: (ws₂ ++ (v ++ (ws₃ ++ ',' :: (ws₄ ++ (cs ++ rest))))))
    simp only [List.append_assoc, List.cons_append, same]
    exact ((skipFrom_members skip (space₁.skip_cons rfl _) first).2
      (space₃.skip_cons rfl _)).trans others

/-- **Every JSON value is passed over**, with space before it, whatever follows that does not go on
with a number. -/
theorem WellFormed.skipValue {ws cs rest : List Char} (h : WellFormed .value cs) (space : Space ws)
    (ends : EndsNumber rest) : skipValue (ws ++ (cs ++ rest)) = .ok ((), rest) := by
  rw [Json.skipValue, space.skipFrom]
  refine h.skipFrom ?_ ends
  rw [List.length_append, List.length_append]
  omega

end TextCursor.Json
