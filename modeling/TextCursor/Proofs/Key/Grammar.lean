import Mathlib.Data.List.Forall2
import TextCursor.Command.Parser
import TextCursor.Cursor.Action
import TextCursor.Proofs.Key.RoundTrip
import TextCursor.Proofs.Text.Trim

/-!
# Which texts are keys

`Spelling` says which texts spell a key: one, two or three parts with colons between them, each of
which spells a bound once blank characters are taken off it. `ofText?_eq_some_iff` says that a text
is read as a key exactly where it spells that key.

A text is trimmed before it is split, and each part once more. Blank characters at the ends of a
text are blank characters at the ends of its first and last part (`exists_splitColons_before`,
`exists_splitColons_behind`), so the first trimming makes no difference
(`map_readBound?_splitColons_trim`).
-/

namespace TextCursor.Key

/-! ## Spellings -/

/-- What a part of a key gives as a bound: nothing where it is blank, and else the number of 64 bits
that it spells. -/
inductive Bound (part : List Char) : Option Int64 → Prop
  | absent : Text.trim part = [] → Bound part none
  | number {z : Int} : Text.Signed (Text.trim part) z → -2 ^ 63 ≤ z → z ≤ 2 ^ 63 - 1 →
      Bound part (some (Int64.ofInt z))

/-- The key that one bound gives, or two or three. Only the bounds of a slice may be absent. -/
inductive OfBounds : List (Option Int64) → Key → Prop
  | place (i : Int64) : OfBounds [some i] (.place i)
  | slice (start stop : Option Int64) : OfBounds [start, stop] (.slice start stop none)
  | stepped (start stop step : Option Int64) : OfBounds [start, stop, step] (.slice start stop step)

/-- A text that spells a key: what stands before, between and behind its colons gives the bounds of
the key. -/
inductive Spelling (cs : List Char) (k : Key) : Prop
  | ofParts {parts : List (List Char)} {bounds : List (Option Int64)} :
      (∀ part ∈ parts, ':' ∉ part) → [':'].intercalate parts = cs →
      List.Forall₂ Bound parts bounds → OfBounds bounds k → Spelling cs k

theorem readBound?_eq_some_iff {part : List Char} {b : Option Int64} :
    readBound? part = some b ↔ Bound part b := by
  unfold readBound?
  split
  · next blank =>
    constructor
    · intro same
      cases same
      exact .absent blank
    · intro bound
      cases bound with
      | absent _ => rfl
      | number spelled _ _ =>
        exact absurd blank spelled.ne_nil
  · next something =>
    simp only [Option.map_eq_some_iff, Text.readSigned?_eq_some_iff]
    constructor
    · rintro ⟨i, spelled, rfl⟩
      have bound := Bound.number spelled i.le_toInt (by have := i.toInt_lt; omega)
      rwa [Int64.ofInt_toInt] at bound
    · intro bound
      cases bound with
      | absent blank => exact absurd blank something
      | number spelled least greatest =>
        refine ⟨_, ?_, rfl⟩
        rwa [Int64.toInt_ofInt_of_le least (by omega)]

/-! ## Parts of a text -/

theorem splitColons_cons_of_ne {c : Char} (h : c ≠ ':') {cs part : List Char}
    {parts : List (List Char)} (split : splitColons cs = part :: parts) :
    splitColons (c :: cs) = (c :: part) :: parts := by
  rw [splitColons, if_neg h, split]

/-- The parts of a text hold no colon, and with colons between them they are the text. -/
theorem splitColons_spec (cs : List Char) :
    (∀ part ∈ splitColons cs, ':' ∉ part) ∧ [':'].intercalate (splitColons cs) = cs := by
  induction cs with
  | nil => simp [splitColons]
  | cons c cs ih =>
    cases split : splitColons cs with
    | nil => exact absurd split (splitColons_ne_nil cs)
    | cons part parts =>
      rw [split] at ih
      obtain ⟨clean, joined⟩ := ih
      by_cases colon : c = ':'
      · subst colon
        have whole : splitColons (':' :: cs) = [] :: part :: parts := by
          rw [splitColons, if_pos rfl, split]
        rw [whole]
        refine ⟨?_, ?_⟩
        · intro p mem
          rcases List.mem_cons.1 mem with rfl | mem
          · exact List.not_mem_nil
          · exact clean p mem
        · rw [List.intercalate_cons_cons, joined]
          rfl
      · rw [splitColons_cons_of_ne colon split]
        refine ⟨?_, ?_⟩
        · intro p mem
          rcases List.mem_cons.1 mem with rfl | mem
          · have := clean part List.mem_cons_self
            simp [Ne.symm colon, this]
          · exact clean p (List.mem_cons_of_mem part mem)
        · cases parts with
          | nil => simpa using joined
          | cons second parts =>
            rw [List.intercalate_cons_cons] at joined ⊢
            rw [← joined]
            rfl

/-- Parts without colons are found again in the text that they make with colons between them. -/
theorem splitColons_intercalate {parts : List (List Char)} (something : parts ≠ [])
    (clean : ∀ part ∈ parts, ':' ∉ part) : splitColons ([':'].intercalate parts) = parts := by
  induction parts with
  | nil => exact absurd rfl something
  | cons part parts ih =>
    have first := clean part List.mem_cons_self
    cases parts with
    | nil => rw [List.intercalate_singleton, splitColons_of_not_mem first]
    | cons second parts =>
      have others := ih (List.cons_ne_nil second parts) fun p mem =>
        clean p (List.mem_cons_of_mem part mem)
      rw [List.intercalate_cons_cons, List.append_assoc, List.singleton_append,
        splitColons_append first, others]

/-! ## Blank characters at the ends of a text -/

/-- What is added before a text is added before its first part. -/
theorem exists_splitColons_before {before : List Char} (h : ':' ∉ before) (cs : List Char) :
    ∃ first others, splitColons cs = first :: others ∧
      splitColons (before ++ cs) = (before ++ first) :: others := by
  induction before with
  | nil =>
    cases split : splitColons cs with
    | nil => exact absurd split (splitColons_ne_nil cs)
    | cons first others => exact ⟨first, others, rfl, split⟩
  | cons c before ih =>
    rw [List.mem_cons, not_or] at h
    obtain ⟨first, others, split, added⟩ := ih h.2
    exact ⟨first, others, split, splitColons_cons_of_ne (Ne.symm h.1) added⟩

/-- What is added behind a text is added behind its last part. -/
theorem exists_splitColons_behind {behind : List Char} (h : ':' ∉ behind) (cs : List Char) :
    ∃ others last, splitColons cs = others ++ [last] ∧
      splitColons (cs ++ behind) = others ++ [last ++ behind] := by
  induction cs with
  | nil => exact ⟨[], [], rfl, splitColons_of_not_mem h⟩
  | cons c cs ih =>
    obtain ⟨others, last, split, added⟩ := ih
    by_cases colon : c = ':'
    · refine ⟨[] :: others, last, ?_, ?_⟩
      · rw [splitColons, if_pos colon, split]
        rfl
      · rw [List.cons_append, splitColons, if_pos colon, added]
        rfl
    · cases others with
      | nil =>
        exact ⟨[], c :: last, splitColons_cons_of_ne colon split,
          splitColons_cons_of_ne colon added⟩
      | cons first others =>
        exact ⟨(c :: first) :: others, last, splitColons_cons_of_ne colon split,
          splitColons_cons_of_ne colon added⟩

theorem colon_not_mem_of_blank {cs : List Char} (h : ∀ c ∈ cs, Text.isBlank c = true) :
    ':' ∉ cs := by
  intro colon
  cases h ':' colon

theorem readBound?_congr {part part' : List Char} (h : Text.trim part = Text.trim part') :
    readBound? part = readBound? part' := by
  rw [readBound?, readBound?, h]

/-- The parts of a text give the same bounds whether the text has been trimmed or not. -/
theorem map_readBound?_splitColons_trim (cs : List Char) :
    (splitColons (Text.trim cs)).map readBound? = (splitColons cs).map readBound? := by
  obtain ⟨before, behind, hbefore, hbehind, whole⟩ := Text.exists_blank_around cs
  obtain ⟨others, last, split, added⟩ :=
    exists_splitColons_behind (colon_not_mem_of_blank hbehind) (Text.trim cs)
  obtain ⟨first, others', split', added'⟩ :=
    exists_splitColons_before (colon_not_mem_of_blank hbefore) (Text.trim cs ++ behind)
  rw [← whole] at added'
  have lastSame := readBound?_congr (Text.trim_append_right hbehind last)
  have firstSame := readBound?_congr (Text.trim_append_left hbefore first)
  calc (splitColons (Text.trim cs)).map readBound?
      = (others ++ [last ++ behind]).map readBound? := by
        rw [split, List.map_append, List.map_append, List.map_singleton, List.map_singleton,
          lastSame]
    _ = (first :: others').map readBound? := by rw [← added, split']
    _ = (splitColons cs).map readBound? := by
        rw [added', List.map_cons, List.map_cons, firstSame]

/-! ## Reading -/

/-- A text is read as a key where all its parts are read as bounds and these give a key. -/
theorem ofText?_eq_some_iff_bounds {s : String} {k : Key} :
    ofText? s = some k ↔ ∃ bounds : List (Option Int64),
      (splitColons s.toList).map readBound? = bounds.map some ∧ OfBounds bounds k := by
  rw [← map_readBound?_splitColons_trim, ofText?]
  constructor
  · intro read
    split at read
    · next only parts =>
      simp only [Option.bind_eq_bind, Option.bind_eq_some_iff, Option.pure_def,
        Option.some.injEq] at read
      obtain ⟨_, first, i, rfl, rfl⟩ := read
      exact ⟨[some i], by simp [parts, first], .place i⟩
    · next part₁ part₂ parts =>
      simp only [Option.bind_eq_bind, Option.bind_eq_some_iff, Option.pure_def,
        Option.some.injEq] at read
      obtain ⟨start, first, stop, second, rfl⟩ := read
      exact ⟨[start, stop], by simp [parts, first, second], .slice start stop⟩
    · next part₁ part₂ part₃ parts =>
      simp only [Option.bind_eq_bind, Option.bind_eq_some_iff, Option.pure_def,
        Option.some.injEq] at read
      obtain ⟨start, first, stop, second, step, third, rfl⟩ := read
      exact ⟨[start, stop, step], by simp [parts, first, second, third], .stepped start stop step⟩
    · cases read
  · rintro ⟨bounds, all, key⟩
    cases key with
    | place i =>
      simp only [List.map_cons, List.map_nil, List.map_eq_cons_iff, List.map_eq_nil_iff] at all
      obtain ⟨part, _, parts, first, rfl⟩ := all
      simp [parts, first]
    | slice start stop =>
      simp only [List.map_cons, List.map_nil, List.map_eq_cons_iff, List.map_eq_nil_iff] at all
      obtain ⟨part₁, _, parts, first, part₂, _, rfl, second, rfl⟩ := all
      simp [parts, first, second]
    | stepped start stop step =>
      simp only [List.map_cons, List.map_nil, List.map_eq_cons_iff, List.map_eq_nil_iff] at all
      obtain ⟨part₁, _, parts, first, part₂, _, rfl, second, part₃, _, rfl, third, rfl⟩ := all
      simp [parts, first, second, third]

theorem forall₂_bound_iff {parts : List (List Char)} {bounds : List (Option Int64)} :
    List.Forall₂ Bound parts bounds ↔ parts.map readBound? = bounds.map some := by
  rw [← List.forall₂_eq_eq_eq, List.forall₂_map_left_iff, List.forall₂_map_right_iff]
  simp only [readBound?_eq_some_iff]

theorem OfBounds.ne_nil {bounds : List (Option Int64)} {k : Key} (h : OfBounds bounds k) :
    bounds ≠ [] := by
  cases h <;> simp

theorem ofText?_eq_some_iff {s : String} {k : Key} : ofText? s = some k ↔ Spelling s.toList k := by
  rw [ofText?_eq_some_iff_bounds]
  constructor
  · rintro ⟨bounds, all, key⟩
    obtain ⟨clean, joined⟩ := splitColons_spec s.toList
    exact .ofParts clean joined (forall₂_bound_iff.2 all) key
  · rintro ⟨clean, joined, given, key⟩
    refine ⟨_, ?_, key⟩
    rw [← joined, splitColons_intercalate _ clean]
    · exact forall₂_bound_iff.1 given
    · rintro rfl
      cases given
      exact key.ne_nil rfl

theorem readKey_eq_ok_iff {s : String} {k : Key} :
    Command.readKey s = .ok k ↔ Spelling s.toList k := by
  rw [← ofText?_eq_some_iff, Command.readKey]
  cases ofText? s with
  | none => simp
  | some k' => simp

theorem readKey_eq_error_iff {s : String} {e : CommandError} :
    Command.readKey s = .error e ↔
      e = .scan (.invalidKey s) ∧ ∀ k, ¬ Spelling s.toList k := by
  simp only [← ofText?_eq_some_iff, Command.readKey]
  cases ofText? s with
  | none => simp [eq_comm]
  | some k => simp

/-- **A text is read as a key exactly where it spells one**, and as the key that it spells. Any
other text is refused with an error that carries it as it stands, whether it is the argument of a
command or is looked up by a cursor. -/
theorem read_exactly_as_spelled (s : String) :
    (∀ k, ofText? s = some k ↔ Spelling s.toList k) ∧
    (∀ k, Command.readKey s = .ok k ↔ Spelling s.toList k) ∧
    (∀ e, Command.readKey s = .error e ↔
      e = .scan (.invalidKey s) ∧ ∀ k, ¬ Spelling s.toList k) ∧
    (∀ c : Cursor, (∀ k, ¬ Spelling s.toList k) →
      c.perform (.get s) = .fail (.invalidKey s) c) ∧
    (ScanError.invalidKey s).message = "Invalid index: " ++ s := by
  refine ⟨fun k => ofText?_eq_some_iff, fun k => readKey_eq_ok_iff, fun e => readKey_eq_error_iff,
    ?_, rfl⟩
  intro c unspelled
  have unread : ofText? s = none := by
    cases read : ofText? s with
    | none => rfl
    | some k => exact absurd (ofText?_eq_some_iff.1 read) (unspelled k)
  rw [Cursor.perform, unread]

/-- A slice with blanks around its numbers, a plus, zeros before the digits and the least number of
all; and a number that is one too great. -/
theorem read_as_spelled_at_limits :
    Spelling "\u2003+007 :-9223372036854775808: ".toList
      (.slice (some 7) (some Int64.minValue) none) ∧
    (∀ k, ¬ Spelling "9223372036854775808".toList k) ∧
    (Cursor.new "a").perform (.get "9223372036854775808") =
      .fail (.invalidKey "9223372036854775808") (Cursor.new "a") := by
  obtain ⟨reads, -⟩ := read_exactly_as_spelled "\u2003+007 :-9223372036854775808: "
  obtain ⟨tooGreat, -, -, refused, -⟩ := read_exactly_as_spelled "9223372036854775808"
  have unspelled : ∀ k, ¬ Spelling "9223372036854775808".toList k := by
    intro k spelled
    have unread : ofText? "9223372036854775808" = none := by decide +kernel
    have read := (tooGreat k).2 spelled
    rw [unread] at read
    cases read
  exact ⟨(reads _).1 (by decide +kernel), unspelled, refused (Cursor.new "a") unspelled⟩

end TextCursor.Key
