import TextCursor.Proofs.Command.Line
import TextCursor.Proofs.Key.RoundTrip

/-!
# Every command has its line

A command is read from its word, one separator and its argument, after any blank characters, and a
text or a pattern is taken from the line as it stands: `lines_say_every_command`. What a line is
split into (`parts_separated`) and what the word makes of the argument (`ofWord_word`) are looked at one
after the other.
-/

namespace TextCursor.Command

open Unicode (isWordChar)

/-- The commands that a line can give. No line gives an empty text to append or an empty pattern, or
a count that does not fit 64 bits. -/
def Sayable : Command → Prop
  | .append text => text ≠ ""
  | .search _ pattern => pattern ≠ ""
  | .peek n => n < Text.wordLimit
  | _ => True

/-- The arguments that a line may give a command with: its own one, or any where it takes none. -/
def Takes (c : Command) (argument : String) : Prop :=
  ∀ own, c.argument? = some own → argument = own

/-! ## The line -/

/-- The words that lines give commands with. -/
def words : List String :=
  ["new", "append", "unscan", "getch", "peek", "rest", "pos", "eos", "char", "matched", "index",
    "state", "show", "exit"] ++ MatchOp.all.map MatchOp.word

theorem word_mem_words (c : Command) : c.word ∈ words := by
  cases c with
  | search op pattern =>
    have known : op ∈ MatchOp.all := by cases op <;> decide
    exact List.mem_append_right _ (List.mem_map_of_mem known)
  | _ => simp [word, words]

theorem word_ne_nil (c : Command) : c.word.toList ≠ [] := by
  have all : ∀ w ∈ words, w.toList ≠ [] := by decide
  exact all c.word c.word_mem_words

theorem isWordChar_of_mem_word (c : Command) : ∀ ch ∈ c.word.toList, isWordChar ch = true := by
  have all : (words.all fun w => w.toList.all isWordChar) = true := by decide
  exact List.all_eq_true.1 (List.all_eq_true.1 all c.word c.word_mem_words)

theorem not_isBlank_of_mem_word (c : Command) : ∀ ch ∈ c.word.toList, Text.isBlank ch = false := by
  have all : (words.all fun w => w.toList.all fun ch => !Text.isBlank ch) = true := by decide
  intro ch mem
  have notBlank := List.all_eq_true.1 (List.all_eq_true.1 all c.word c.word_mem_words) ch mem
  rwa [Bool.not_eq_true'] at notBlank

/-- A separator ends the word: it is no character of one. -/
theorem not_isWordChar_of_isSeparator {ch : Char} (h : isSeparator ch = true) :
    isWordChar ch = false := by
  rw [isSeparator, Bool.or_eq_true, beq_iff_eq, beq_iff_eq] at h
  rcases h with rfl | rfl
  · decide
  · decide

/-- Blank characters before the word of a command are left out, and nothing else is. -/
theorem dropWhile_said (c : Command) {blank : List Char} (h : Text.allBlank blank = true)
    (rest : List Char) :
    (blank ++ (c.word.toList ++ rest)).dropWhile Text.isBlank = c.word.toList ++ rest := by
  rw [Text.allBlank, List.all_eq_true] at h
  rw [List.dropWhile_append_of_pos h]
  cases chars : c.word.toList with
  | nil => exact absurd chars c.word_ne_nil
  | cons ch word =>
    have first : Text.isBlank ch = false :=
      c.not_isBlank_of_mem_word ch (chars ▸ List.mem_cons_self)
    rw [List.cons_append, List.dropWhile_cons, first]
    rfl

/-- The word of a command ends where what follows is no character of a word. -/
theorem takeWhile_said (c : Command) {rest : List Char} (ends : rest.takeWhile isWordChar = []) :
    (c.word.toList ++ rest).takeWhile isWordChar = c.word.toList ∧
      (c.word.toList ++ rest).dropWhile isWordChar = rest := by
  have word : (c.word.toList ++ rest).takeWhile isWordChar = c.word.toList := by
    rw [List.takeWhile_append_of_pos c.isWordChar_of_mem_word, ends, List.append_nil]
  have whole := List.takeWhile_append_dropWhile (p := isWordChar) (l := c.word.toList ++ rest)
  rw [word] at whole
  exact ⟨word, List.append_cancel_left whole⟩

/-- The word of a command is split from its argument, of which nothing is lost. -/
theorem parts_separated (c : Command) {separator : Char} (h : isSeparator separator = true)
    (argument : List Char) :
    parts (c.word.toList ++ separator :: argument) =
      .ok (some (c.word, String.ofList argument)) := by
  have ends : (separator :: argument).takeWhile isWordChar = [] := by
    rw [List.takeWhile_cons, not_isWordChar_of_isSeparator h]
    rfl
  obtain ⟨word, behind⟩ := c.takeWhile_said ends
  have something : c.word.toList ++ separator :: argument ≠ [] := by simp
  rw [parts, if_neg something, word, if_neg c.word_ne_nil, behind, String.ofList_toList]
  exact if_pos h

theorem parts_bare (c : Command) : parts c.word.toList = .ok (some (c.word, "")) := by
  obtain ⟨word, behind⟩ := c.takeWhile_said (show ([] : List Char).takeWhile isWordChar = [] from rfl)
  rw [List.append_nil] at word behind
  rw [parts, if_neg c.word_ne_nil, word, if_neg c.word_ne_nil, behind, String.ofList_toList]

/-! ## The argument -/

theorem readCount_toString {n : Nat} (fits : n < Text.wordLimit) :
    readCount (toString n) = .ok n := by
  have digits : ∀ ch ∈ (toString n).toList, Text.isBlank ch = false := by
    intro ch mem
    refine Text.isBlank_of_isNumeralChar ?_
    rw [Text.isNumeralChar, Text.isDigit_of_mem_toString mem, Bool.or_true]
  have number := Text.readWord?_toString fits
  rw [readCount, Text.trim_of_not_blank digits]
  cases chars : (toString n).toList with
  | nil =>
    rw [Text.toList_toString_nat] at chars
    exact absurd chars Nat.toDigits_ne_nil
  | cons ch rest =>
    rw [chars] at number
    simp only [number]

theorem readKey_toText (key : Key) : readKey key.toText = .ok key := by
  rw [readKey, Key.ofText?_toText]

theorem toText_ne_empty (key : Key) : key.toText ≠ "" := by
  intro empty
  have read := Key.ofText?_toText key
  rw [empty] at read
  cases read

theorem required_of_ne {argument : String} (h : argument ≠ "") (word : String) :
    required word argument = .ok argument := by
  rw [required, if_neg]
  rwa [String.isEmpty_iff]

/-- What the word of a command makes of an argument is the command. -/
theorem ofWord_word {c : Command} (sayable : c.Sayable) {argument : String}
    (takes : c.Takes argument) : ofWord c.word argument = .ok c := by
  cases c with
  | new text =>
    rw [takes text rfl]
    rfl
  | append text =>
    rw [takes text rfl]
    show (required "append" text).map Command.append = _
    rw [required_of_ne sayable]
    rfl
  | search op pattern =>
    have given : ofWord op.word pattern = (required op.word pattern).map (Command.search op) := by
      cases op <;> rfl
    -- no matching operation has the word of another command
    rw [takes pattern rfl, word, given, required_of_ne sayable]
    rfl
  | peek n =>
    rw [takes (toString n) rfl]
    show (readCount (toString n)).map Command.peek = _
    rw [readCount_toString sayable]
    rfl
  | index key =>
    -- the written form is not empty, so it is read as a key
    rw [takes key.toText rfl]
    show (do
      let text ← required "index" key.toText
      return .index (← readKey text) : Except CommandError Command) = _
    rw [required_of_ne (toText_ne_empty key)]
    show (do return .index (← readKey key.toText) : Except CommandError Command) = _
    rw [readKey_toText]
    rfl
  | _ => rfl

/-! ## Both together -/

theorem parse_separated {c : Command} (sayable : c.Sayable) {blank argument : String}
    {separator : Char} (h : Text.allBlank blank.toList = true)
    (separates : isSeparator separator = true) (takes : c.Takes argument) :
    (parse (blank ++ c.word ++ String.singleton separator ++ argument)).result = .ok (some c) := by
  have chars : (blank ++ c.word ++ String.singleton separator ++ argument).toList =
      blank.toList ++ (c.word.toList ++ separator :: argument.toList) := by simp
  rw [result_parse, chars, dropWhile_said c h, parts_separated c separates, String.ofList_toList]
  show (ofWord c.word argument).map some = _
  rw [ofWord_word sayable takes]
  rfl

theorem parse_bare {c : Command} {blank : String} (h : Text.allBlank blank.toList = true)
    (given : ofWord c.word "" = .ok c) : (parse (blank ++ c.word)).result = .ok (some c) := by
  have left := dropWhile_said c h []
  rw [List.append_nil] at left
  rw [result_parse, String.toList_append, left, parts_bare c]
  show (ofWord c.word "").map some = _
  rw [given]
  rfl

/-- **Every command has its line.** After any blank characters a word, one separator and the argument
give the command: a text or a pattern as it stands, whatever it holds, a count in decimal, a key in
its written form, and to a command without an argument any. The word alone gives the commands
without an argument, the empty text to start over with, and the count of one. -/
theorem lines_say_every_command :
    (∀ (c : Command) (blank argument : String) (separator : Char), c.Sayable →
      Text.allBlank blank.toList = true → separator = ' ' ∨ separator = '\t' → c.Takes argument →
      (parse (blank ++ c.word ++ String.singleton separator ++ argument)).result = .ok (some c)) ∧
    ∀ (c : Command) (blank : String), Text.allBlank blank.toList = true →
      c.argument? = none ∨ c = .new "" ∨ c = .peek 1 →
      (parse (blank ++ c.word)).result = .ok (some c) := by
  constructor
  · intro c blank argument separator sayable h separates takes
    refine parse_separated sayable h ?_ takes
    rcases separates with rfl | rfl
    · rfl
    · rfl
  · intro c blank h kind
    refine parse_bare h ?_
    rcases kind with none | rfl | rfl
    · have sayable : c.Sayable := by
        cases c with
        | append | search | peek => cases none
        | _ => trivial
      exact ofWord_word sayable fun own given => by rw [none] at given; cases given
    · rfl
    · rfl

/-- A pattern that begins with a blank and holds quotes, a line feed and what is not ASCII, behind a
wide blank and a tab; the greatest count, a key with the least number, and a word alone. -/
theorem lines_say_awkward_arguments :
    let pattern := " \"\\w+\n\té\" "
    (parse ("\u2003" ++ "scan_until" ++ String.singleton '\t' ++ pattern)).result =
      .ok (some (.search .scanUntil pattern)) ∧
    (parse ("" ++ "peek" ++ String.singleton ' ' ++ "18446744073709551615")).result =
      .ok (some (.peek 18446744073709551615)) ∧
    (parse ("" ++ "index" ++ String.singleton ' ' ++ ":-9223372036854775808:7")).result =
      .ok (some (.index (.slice none (some Int64.minValue) (some 7)))) ∧
    (parse (" " ++ "peek")).result = .ok (some (.peek 1)) := by
  intro pattern
  have said := lines_say_every_command.1
  refine ⟨?_, ?_, ?_, ?_⟩
  · have sayable : (Command.search .scanUntil pattern).Sayable := show pattern ≠ "" by decide
    exact said (.search .scanUntil pattern) "\u2003" pattern '\t' sayable (by decide) (.inr rfl)
      fun own given => Option.some.inj given
  · have sayable : (Command.peek 18446744073709551615).Sayable :=
      show 18446744073709551615 < Text.wordLimit by decide
    exact said (.peek 18446744073709551615) "" "18446744073709551615" ' ' sayable (by decide)
      (.inl rfl) fun own given => Option.some.inj given
  · have written : (Key.slice none (some Int64.minValue) (some 7)).toText =
        ":-9223372036854775808:7" := by decide +kernel
    exact said (.index (.slice none (some Int64.minValue) (some 7))) ""
      ":-9223372036854775808:7" ' ' trivial (by decide) (.inl rfl)
      fun own given => written.symm.trans (Option.some.inj given)
  · exact lines_say_every_command.2 (.peek 1) " " (by decide) (.inr (.inr rfl))

end TextCursor.Command
