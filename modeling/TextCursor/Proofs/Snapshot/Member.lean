import TextCursor.Proofs.Json.Grammar
import TextCursor.Snapshot.Json

/-!
# Members of snapshots

`Field` is what a member of an object says, and `Field.Spelled` how it may be spelled: with the
characters of names and texts as they are or escaped, and with space between its parts.
`Members.take` says what becomes of what has been met so far when one more member is met, and
`readMember_value` that the reader does just that with any spelling of it. A position that is no
natural number of 64 bits is refused (`readMember_wrong`).
-/

namespace TextCursor.Snapshot

open TextCursor.Json

/-! ## Members apart from their spelling -/

/-- What a member of an object says. -/
inductive Field where
  | text (value : String)
  | position (value : Nat)
  | lastMatch (value : Option String)
  /-- A position that is a number, but no natural number of 64 bits. -/
  | wrongPosition
  /-- A member of another name. -/
  | other (name : String)
  deriving DecidableEq

namespace Field

/-- The name of the member. -/
def name : Field → String
  | text _ => "text"
  | position _ | wrongPosition => "position"
  | lastMatch _ => "last_match"
  | other name => name

/-- The text that the member gives, if it gives one. -/
def text? : Field → Option String
  | text value => some value
  | _ => none

/-- The position that the member gives, if it gives one. -/
def position? : Field → Option Nat
  | position value => some value
  | _ => none

/-- The remembered match that the member gives, if it gives one or says that there is none. -/
def lastMatch? : Field → Option (Option String)
  | lastMatch value => some value
  | _ => none

/-- How the value of a member is spelled. -/
inductive Value : Field → List Char → Prop
  | text {value : String} {cs : List Char} : Quoted cs value.toList → Value (text value) cs
  | position {ds : List Char} : Whole ds → Nat.ofDigitChars 10 ds 0 < Text.wordLimit →
    Value (position (Nat.ofDigitChars 10 ds 0)) ds
  | noMatch : Value (lastMatch none) ['n', 'u', 'l', 'l']
  | someMatch {value : String} {cs : List Char} : Quoted cs value.toList →
    Value (lastMatch (some value)) cs
  | wrongPosition {sign whole fraction exponent : List Char} :
    Number sign whole fraction exponent →
    sign ≠ [] ∨ fraction ≠ [] ∨ exponent ≠ [] ∨ Text.wordLimit ≤ Nat.ofDigitChars 10 whole 0 →
    Value wrongPosition (sign ++ (whole ++ (fraction ++ exponent)))
  | other {name : String} {cs : List Char} : name ∉ ["text", "position", "last_match"] →
    WellFormed .value cs → Value (other name) cs

theorem value_toDigits {n : Nat} (fits : n < Text.wordLimit) :
    (position n).Value (Nat.toDigits 10 n) := by
  have same : Nat.ofDigitChars 10 (Nat.toDigits 10 n) 0 = n := Nat.ofDigitChars_ten_toDigits
  have value := Value.position (whole_toDigits n) (by rwa [same])
  rwa [same] at value

/-- How a member is spelled, with the space behind it. -/
inductive Spelled : Field → List Char → Prop
  | mk {f : Field} {name value ws₁ ws₂ ws₃ : List Char} : Quoted name f.name.toList → Space ws₁ →
    Space ws₂ → f.Value value → Space ws₃ →
    Spelled f (name ++ (ws₁ ++ ':' :: (ws₂ ++ (value ++ ws₃))))

end Field

/-! ## Reading values -/

section Values

variable {ws cs rest : List Char}

theorem readText_space (h : Space ws) : readText (ws ++ cs) = readText cs := by
  rw [readText, readText, h.skip]

theorem readPosition_space (h : Space ws) : readPosition (ws ++ cs) = readPosition cs := by
  rw [readPosition, readPosition, h.skip]

theorem readMatch_space (h : Space ws) : readMatch (ws ++ cs) = readMatch cs := by
  rw [readMatch, readMatch, h.skip]

theorem readColon_space (h : Space ws) (cs : List Char) :
    readColon (ws ++ ':' :: cs) = .ok cs := by
  rw [readColon, h.skip_cons rfl]
  rfl

theorem readText_quoted {text : String} (h : Quoted cs text.toList) (rest : List Char) :
    readText (cs ++ rest) = .ok (text, rest) := by
  obtain ⟨inside, same, read⟩ := h.readString rest
  rw [same, readText, skipSpace_cons rfl]
  simp only [read]
  rw [Except.map, String.ofList_toList]

theorem readText_value {text : String} (h : (Field.text text).Value cs) (rest : List Char) :
    readText (cs ++ rest) = .ok (text, rest) := by
  cases h with
  | text quoted => exact readText_quoted quoted rest

/-- Absence is told from any text by its first character. -/
theorem readMatch_value {m : Option String} (h : (Field.lastMatch m).Value cs) (rest : List Char) :
    readMatch (cs ++ rest) = .ok (m, rest) := by
  cases h with
  | noMatch => rfl
  | @someMatch text cs quoted =>
    have read := readText_quoted quoted rest
    obtain ⟨inside, same, _⟩ := quoted.readString rest
    rw [same] at read ⊢
    show (readText ('"' :: inside)).map _ = _
    rw [read]
    rfl

/-- A position is read from the digits of any number that fits 64 bits. -/
theorem readPosition_value {n : Nat} (h : (Field.position n).Value cs) (ends : EndsNumber rest) :
    readPosition (cs ++ rest) = .ok (n, rest) := by
  cases h with
  | position whole fits =>
    have numeral := readNumeral_of_whole whole fits ends
    obtain ⟨d, ds, rfl⟩ : ∃ d ds, cs = d :: ds := List.exists_cons_of_ne_nil whole.ne_nil
    have digit : d.isDigit = true := whole.isDigit d List.mem_cons_self
    rw [List.cons_append] at numeral
    rw [List.cons_append, readPosition, skipSpace_cons (isSpace_of_isDigit digit)]
    simp only [digit, if_true, numeral, bind, Except.bind, word?_of_lt fits]
    rfl

/-- A number with a fractional part, an exponent or too many digits is no natural number of 64 bits. -/
theorem word?_eq_none {n : Numeral}
    (odd : n.fraction ≠ none ∨ n.exponent ≠ none ∨
      Text.wordLimit ≤ Nat.ofDigitChars 10 n.whole 0) : n.word? = none := by
  rw [Numeral.word?]
  split
  · next plain =>
    simp only [Bool.and_eq_true, Option.isNone_iff_eq_none] at plain
    have great : Text.wordLimit ≤ Nat.ofDigitChars 10 n.whole 0 :=
      (odd.resolve_left (not_not_intro plain.1)).resolve_left (not_not_intro plain.2)
    rw [Option.filter_some, if_neg]
    simpa using great
  · rfl

/-- Any other number is refused, and not taken for one that fits. -/
theorem readPosition_wrong (h : Field.wrongPosition.Value cs) (ends : EndsNumber rest) :
    ∃ e, readPosition (cs ++ rest) = .error e := by
  cases h with
  | @wrongPosition sign whole fraction exponent number odd =>
    rw [List.append_assoc, List.append_assoc, List.append_assoc]
    rcases number.sign with rfl | rfl
    · obtain ⟨n, whole_eq, fraction_iff, exponent_iff, read⟩ := number.readNumeral ends
      have none : n.word? = none := by
        refine word?_eq_none ?_
        rw [Ne, fraction_iff, Ne, exponent_iff, whole_eq]
        exact odd.resolve_left (not_not_intro rfl)
      obtain ⟨d, ds, rfl⟩ : ∃ d ds, whole = d :: ds :=
        List.exists_cons_of_ne_nil number.whole.ne_nil
      have digit : d.isDigit = true := number.whole.isDigit d List.mem_cons_self
      rw [List.cons_append] at read
      rw [List.nil_append, List.cons_append, readPosition,
        skipSpace_cons (isSpace_of_isDigit digit)]
      simp only [digit, if_true, read, bind, Except.bind]
      -- a number that is too great for any format is found so before it is looked at
      cases n.isTooGreat with
      | true => exact ⟨_, rfl⟩
      | false =>
        simp only [Bool.false_eq_true, if_false, none]
        exact ⟨_, rfl⟩
    · exact ⟨_, rfl⟩

end Values

/-! ## Reading members -/

/-- What becomes of the members met so far when one more is met: a known name must not have been met
before. -/
def Members.take (m : Members) : Field → Except ReadError Members
  | .text value =>
    if m.text.isSome then .error .unexpected else .ok { m with text := some value }
  | .position value =>
    if m.position.isSome then .error .unexpected else .ok { m with position := some value }
  | .lastMatch value =>
    if m.lastMatch.isSome then .error .unexpected else .ok { m with lastMatch := some value }
  | .wrongPosition => .error .unexpected
  | .other _ => .ok m

section Members

variable {f : Field} {ws₁ ws₂ value rest : List Char}

theorem readMember_text (m : Members) (cs : List Char) :
    readMember m "text" cs = if m.text.isSome then .error .unexpected else
      (readColon cs).bind fun rest => (readText rest).map fun read =>
        ({ m with text := some read.1 }, read.2) := by
  rw [readMember, if_pos rfl]
  rfl

theorem readMember_position (m : Members) (cs : List Char) :
    readMember m "position" cs = if m.position.isSome then .error .unexpected else
      (readColon cs).bind fun rest => (readPosition rest).map fun read =>
        ({ m with position := some read.1 }, read.2) := by
  rw [readMember, if_neg (by decide), if_pos rfl]
  rfl

theorem readMember_lastMatch (m : Members) (cs : List Char) :
    readMember m "last_match" cs = if m.lastMatch.isSome then .error .unexpected else
      (readColon cs).bind fun rest => (readMatch rest).map fun read =>
        ({ m with lastMatch := some read.1 }, read.2) := by
  rw [readMember, if_neg (by decide), if_neg (by decide), if_pos rfl]
  rfl

theorem readMember_other {name : String} (unknown : name ∉ ["text", "position", "last_match"])
    (m : Members) (cs : List Char) : readMember m name cs =
      (readColon cs).bind fun rest => (skipValue rest).map fun skipped => (m, skipped.2) := by
  simp only [List.mem_cons, List.not_mem_nil, or_false, not_or] at unknown
  rw [readMember, if_neg unknown.1, if_neg unknown.2.1, if_neg unknown.2.2]
  rfl

/-- The value of a member is read behind its colon, and taken for what it says. -/
theorem readMember_value (h : f.Value value) (typed : f ≠ .wrongPosition) (space₁ : Space ws₁)
    (space₂ : Space ws₂) (ends : EndsNumber rest) (m : Members) :
    readMember m f.name (ws₁ ++ ':' :: (ws₂ ++ (value ++ rest))) =
      (m.take f).map fun m' => (m', rest) := by
  have colon := readColon_space space₁ (ws₂ ++ (value ++ rest))
  cases f with
  | text text =>
    rw [Field.name, readMember_text, Members.take, colon]
    split_ifs
    · rfl
    · show (readText (ws₂ ++ (value ++ rest))).map _ = _
      rw [readText_space space₂, readText_value h]
      rfl
  | position n =>
    rw [Field.name, readMember_position, Members.take, colon]
    split_ifs
    · rfl
    · show (readPosition (ws₂ ++ (value ++ rest))).map _ = _
      rw [readPosition_space space₂, readPosition_value h ends]
      rfl
  | lastMatch lastMatch =>
    rw [Field.name, readMember_lastMatch, Members.take, colon]
    split_ifs
    · rfl
    · show (readMatch (ws₂ ++ (value ++ rest))).map _ = _
      rw [readMatch_space space₂, readMatch_value h]
      rfl
  | wrongPosition => exact absurd rfl typed
  | other name =>
    cases h with
    | other unknown wellFormed =>
      rw [Field.name, readMember_other unknown, colon]
      show (skipValue (ws₂ ++ (value ++ rest))).map _ = _
      rw [wellFormed.skipValue space₂ ends]
      rfl

theorem readMember_wrong (h : Field.wrongPosition.Value value) (space₁ : Space ws₁)
    (space₂ : Space ws₂) (ends : EndsNumber rest) (m : Members) :
    ∃ e, readMember m "position" (ws₁ ++ ':' :: (ws₂ ++ (value ++ rest))) = .error e := by
  rw [readMember_position, readColon_space space₁]
  split_ifs
  · exact ⟨_, rfl⟩
  · obtain ⟨e, failed⟩ := readPosition_wrong h ends
    refine ⟨e, ?_⟩
    show (readPosition (ws₂ ++ (value ++ rest))).map _ = _
    rw [readPosition_space space₂, failed]
    rfl

end Members

end TextCursor.Snapshot
