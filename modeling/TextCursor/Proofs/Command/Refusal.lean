import TextCursor.Proofs.Command.Saying
import TextCursor.Proofs.Key.Grammar

/-!
# Which lines are refused

`Refused` says which lines give no command, and with which error: those that do not begin with a
word, or whose word runs into something else than a separator, and those whose word is refused with
its argument (`WordRefused`). `refuses_exactly` says that a line fails exactly where it is refused
so, that a line of blank characters alone gives nothing, and that every other line gives a command.

The two halves of reading are looked at one after the other: what a line is split into
(`parts_of_unsplit`, `parts_of_split`) and what a word makes of its argument
(`ofWord_eq_error_iff`).
-/

namespace TextCursor.Command

open Unicode (isWordChar)

/-! ## Refusals -/

/-- The words of the commands that are nothing without an argument. -/
def wordsNeedingArgument : List String :=
  ["append", "index"] ++ MatchOp.all.map MatchOp.word

/-- What a word is refused for with its argument. -/
inductive WordRefused (word argument : String) : CommandError → Prop
  | unknown : word ∉ words → WordRefused word argument (.unknownCommand word)
  | missing : word ∈ wordsNeedingArgument → argument = "" →
      WordRefused word argument (.missingArgument word)
  | count : word = "peek" → Text.trim argument.toList ≠ [] →
      (¬ ∃ n, Text.Unsigned (Text.trim argument.toList) n ∧ n ≤ 2 ^ 64 - 1) →
      WordRefused word argument (.invalidCount (String.ofList (Text.trim argument.toList)))
  | key : word = "index" → argument ≠ "" → (∀ k, ¬ Key.Spelling argument.toList k) →
      WordRefused word argument (.scan (.invalidKey argument))

/-- Whether a line, of which the blank characters at its start have been left out, cannot be split
into a word and an argument: it does not begin with a word, or its word is not followed by a
separator. -/
def Unsplit (read : List Char) : Prop :=
  read.takeWhile isWordChar = [] ∨
    ∃ ch behind, read.dropWhile isWordChar = ch :: behind ∧ isSeparator ch = false

/-- What a line is refused for, of which the blank characters at its start have been left out. The
argument is what follows the word, without the separator. -/
inductive Refused (read : List Char) : CommandError → Prop
  | unsplit : read ≠ [] → Unsplit read → Refused read (.unknownCommand (String.ofList read))
  | word {e : CommandError} : ¬ Unsplit read →
      WordRefused (String.ofList (read.takeWhile isWordChar))
        (String.ofList (read.dropWhile isWordChar).tail) e →
      Refused read e

/-! ## Words and arguments -/

theorem map_eq_error_iff {ε α β : Type} {f : α → β} {r : Except ε α} {e : ε} :
    r.map f = .error e ↔ r = .error e := by
  cases r with
  | error e' => simp [Except.map]
  | ok a => simp [Except.map]

theorem required_eq_error_iff {word argument : String} {e : CommandError} :
    required word argument = .error e ↔ argument = "" ∧ e = .missingArgument word := by
  rw [required, ← String.isEmpty_iff]
  by_cases nothing : argument.isEmpty = true
  · simp [nothing, eq_comm]
  · simp [nothing]

theorem readCount_eq_error_iff {argument : String} {e : CommandError} :
    readCount argument = .error e ↔
      Text.trim argument.toList ≠ [] ∧
        (¬ ∃ n, Text.Unsigned (Text.trim argument.toList) n ∧ n ≤ 2 ^ 64 - 1) ∧
        e = .invalidCount (String.ofList (Text.trim argument.toList)) := by
  have limit : Text.wordLimit = 2 ^ 64 := rfl
  have fits (n : Nat) : n ≤ 2 ^ 64 - 1 ↔ n < Text.wordLimit := by omega
  simp only [fits, ← Text.readWord?_eq_some_iff]
  unfold readCount
  split
  · next blank => simp [blank]
  · next something =>
    cases Text.readWord? (Text.trim argument.toList) with
    | none =>
      constructor
      · intro failed
        cases failed
        exact ⟨something, nofun, rfl⟩
      · rintro ⟨-, -, rfl⟩
        rfl
    | some n =>
      constructor
      · intro failed
        cases failed
      · rintro ⟨-, uncounted, -⟩
        exact absurd ⟨n, rfl⟩ uncounted

/-- The words that stand for a matching operation. -/
theorem ofWord?_eq_some_iff {word : String} {op : MatchOp} :
    MatchOp.ofWord? word = some op ↔ op.word = word := by
  constructor
  · intro found
    simpa using List.find?_some found
  · rintro rfl
    exact MatchOp.ofWord?_word op

theorem op_word_mem_needing (op : MatchOp) : op.word ∈ wordsNeedingArgument := by
  cases op <;> decide

theorem ofWord_of_not_mem {word : String} (unknown : word ∉ words) (argument : String) :
    ofWord word argument = .error (.unknownCommand word) := by
  -- of all branches only the last one is for a word that no command has
  unfold ofWord
  split
  case h_15 =>
    split
    · next op found =>
      rw [ofWord?_eq_some_iff] at found
      exact absurd (found ▸ word_mem_words (.search op "")) unknown
    · rfl
  all_goals exact absurd (by decide) unknown

/-- The commands that need an argument are what their words make of one that is there. -/
theorem ofWord_of_mem_needing {word : String} (needs : word ∈ wordsNeedingArgument) :
    ofWord word "" = .error (.missingArgument word) := by
  have all : ∀ w ∈ wordsNeedingArgument, ofWord w "" = .error (.missingArgument w) := by decide
  exact all word needs

theorem ofWord_index (argument : String) :
    ofWord "index" argument =
      (required "index" argument).bind fun text => (readKey text).map Command.index := rfl

theorem WordRefused.ofWord_eq {word argument : String} {e : CommandError}
    (h : WordRefused word argument e) : ofWord word argument = .error e := by
  cases h with
  | unknown unknown => exact ofWord_of_not_mem unknown argument
  | missing needs nothing => exact nothing ▸ ofWord_of_mem_needing needs
  | count isPeek something uncounted =>
    subst isPeek
    exact map_eq_error_iff.2 (readCount_eq_error_iff.2 ⟨something, uncounted, rfl⟩)
  | key isIndex something unspelled =>
    subst isIndex
    rw [ofWord_index, required_of_ne something]
    exact map_eq_error_iff.2 (Key.readKey_eq_error_iff.2 ⟨rfl, unspelled⟩)

theorem wordRefused_of_required {word argument : String} {f : String → Command} {e : CommandError}
    (needs : word ∈ wordsNeedingArgument) (h : (required word argument).map f = .error e) :
    WordRefused word argument e := by
  obtain ⟨nothing, rfl⟩ := required_eq_error_iff.1 (map_eq_error_iff.1 h)
  exact .missing needs nothing

theorem wordRefused_of_ofWord {word argument : String} {e : CommandError}
    (h : ofWord word argument = .error e) : WordRefused word argument e := by
  -- the branches that can fail are `append`, `peek`, `index`, and the last for all other words
  unfold ofWord at h
  split at h
  case h_2 => exact wordRefused_of_required (by decide) h
  case h_5 =>
    obtain ⟨something, uncounted, rfl⟩ := readCount_eq_error_iff.1 (map_eq_error_iff.1 h)
    exact .count rfl something uncounted
  case h_11 =>
    change ofWord "index" argument = .error e at h
    rw [ofWord_index] at h
    by_cases nothing : argument = ""
    · rw [nothing] at h
      cases h
      exact .missing (by decide) nothing
    · rw [required_of_ne nothing] at h
      obtain ⟨rfl, unspelled⟩ := Key.readKey_eq_error_iff.1 (map_eq_error_iff.1 h)
      exact .key rfl nothing unspelled
  case h_15 =>
    split at h
    · next op found =>
      rw [ofWord?_eq_some_iff] at found
      exact wordRefused_of_required (found ▸ op_word_mem_needing op) h
    · next unknown =>
      cases h
      refine .unknown ?_
      intro known
      -- of all words, only those of the matching operations are left
      have isOp : word ∈ MatchOp.all.map MatchOp.word := by simp_all [words]
      obtain ⟨op, -, rfl⟩ := List.mem_map.1 isOp
      rw [MatchOp.ofWord?_word] at unknown
      cases unknown
  all_goals cases h

/-- A word is refused with its argument exactly where it gives no command. -/
theorem ofWord_eq_error_iff {word argument : String} {e : CommandError} :
    ofWord word argument = .error e ↔ WordRefused word argument e :=
  ⟨wordRefused_of_ofWord, WordRefused.ofWord_eq⟩

/-! ## Lines -/

theorem parts_of_unsplit {read : List Char} (something : read ≠ []) (unsplit : Unsplit read) :
    parts read = .error (.unknownCommand (String.ofList read)) := by
  rw [parts, if_neg something]
  by_cases wordless : read.takeWhile isWordChar = []
  · rw [if_pos wordless]
  · rw [if_neg wordless]
    rcases unsplit with none | ⟨ch, behind, follows, other⟩
    · exact absurd none wordless
    · simp [follows, other]

theorem parts_of_split {read : List Char} (split : ¬ Unsplit read) :
    parts read = .ok (some (String.ofList (read.takeWhile isWordChar),
      String.ofList (read.dropWhile isWordChar).tail)) := by
  rw [Unsplit, not_or] at split
  obtain ⟨worded, separated⟩ := split
  have something : read ≠ [] := by
    rintro rfl
    exact worded rfl
  rw [parts, if_neg something, if_neg worded]
  cases follows : read.dropWhile isWordChar with
  | nil => rfl
  | cons ch behind =>
    cases separates : isSeparator ch with
    | false => exact absurd ⟨ch, behind, follows, separates⟩ separated
    | true => simp [separates]

theorem unsplit_nil : Unsplit [] := .inl rfl

theorem refused_nil {e : CommandError} : ¬ Refused [] e := by
  intro refused
  cases refused with
  | unsplit something _ => exact something rfl
  | word split _ => exact split unsplit_nil

theorem result_parse_of_unsplit {line : String}
    (something : line.toList.dropWhile Text.isBlank ≠ [])
    (unsplit : Unsplit (line.toList.dropWhile Text.isBlank)) :
    (parse line).result =
      .error (.unknownCommand (String.ofList (line.toList.dropWhile Text.isBlank))) := by
  rw [result_parse, parts_of_unsplit something unsplit]

theorem result_parse_of_split {line : String}
    (split : ¬ Unsplit (line.toList.dropWhile Text.isBlank)) :
    (parse line).result =
      (ofWord (String.ofList ((line.toList.dropWhile Text.isBlank).takeWhile isWordChar))
        (String.ofList ((line.toList.dropWhile Text.isBlank).dropWhile isWordChar).tail)).map
          some := by
  rw [result_parse, parts_of_split split]

theorem result_parse_eq_none_iff (line : String) :
    (parse line).result = .ok none ↔ line.toList.dropWhile Text.isBlank = [] := by
  rw [parse_eq_none_iff, ← Text.trimStart_eq_nil_iff, Text.trimStart]

theorem result_parse_eq_error_iff (line : String) (e : CommandError) :
    (parse line).result = .error e ↔ Refused (line.toList.dropWhile Text.isBlank) e := by
  by_cases nothing : line.toList.dropWhile Text.isBlank = []
  · rw [(result_parse_eq_none_iff line).2 nothing, nothing]
    simp [refused_nil]
  by_cases unsplit : Unsplit (line.toList.dropWhile Text.isBlank)
  · rw [result_parse_of_unsplit nothing unsplit]
    constructor
    · intro same
      cases same
      exact .unsplit nothing unsplit
    · intro refused
      cases refused with
      | unsplit _ _ => rfl
      | word split _ => exact absurd unsplit split
  · rw [result_parse_of_split unsplit, map_eq_error_iff, ofWord_eq_error_iff]
    constructor
    · intro refused
      exact .word unsplit refused
    · intro refused
      cases refused with
      | unsplit _ unsplit' => exact absurd unsplit' unsplit
      | word _ refused => exact refused

/-- **A line is refused exactly where it should be.** A line of blank characters alone gives
nothing; any other one fails with an error just where it is refused with that error, and gives a
command where it is refused with none. The three patterns that a line is read with are always
compiled, and no error is another one than those that lines are refused with. -/
theorem refuses_exactly (line : String) :
    let read := line.toList.dropWhile Text.isBlank
    ((parse line).result = .ok none ↔ read = []) ∧
    (∀ e, (parse line).result = .error e ↔ Refused read e) ∧
    ((∃ c, (parse line).result = .ok (some c)) ↔ read ≠ [] ∧ ∀ e, ¬ Refused read e) ∧
    (∃ p, Pattern.compile "\\s+" = .ok p) ∧ (∃ p, Pattern.compile "\\w+" = .ok p) ∧
    ∃ p, Pattern.compile "[ \\t]" = .ok p := by
  intro read
  obtain ⟨set, separator, -⟩ := compile_separator
  refine ⟨result_parse_eq_none_iff line, result_parse_eq_error_iff line, ?_,
    ⟨_, compile_blanks⟩, ⟨_, compile_word⟩, ⟨_, separator⟩⟩
  -- what is no error and not nothing is a command
  simp only [read, ← result_parse_eq_error_iff, ne_eq, ← result_parse_eq_none_iff]
  cases (parse line).result with
  | error e => simp
  | ok command? =>
    cases command? with
    | none => simp
    | some c => simp

end TextCursor.Command
