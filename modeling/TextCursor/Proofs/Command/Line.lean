import TextCursor.Proofs.Cursor.Reload
import TextCursor.Proofs.Pattern.Repetition

/-!
# Reading lines

The cursor that reads a line takes three steps: over the blank characters before the word, over the
word, and over one separator behind it. `result_split` says what comes of them without a cursor, by
taking characters from a list as long as they are of a kind (`parts`), and `result_parse` what comes
of the whole line. The lines that hold no command are those of blank characters alone
(`parse_eq_none_iff`); of the others, `given_ofWord` says what a word and an argument can give.
-/

namespace TextCursor

open Unicode (isWordChar)

namespace Cursor

/-! ## Steps over the rest -/

theorem rest_new (text : String) : (new text).rest = text :=
  String.toList_inj.1 (wf_new text).toList_rest

/-- An anchored match that moves leads to what lies behind it. -/
theorem Valid.search_anchored {c : Cursor} (h : c.Valid) (op : MatchOp) {wanted : Wanted}
    (anchored : optionsOf op = ⟨true, true, wanted⟩) {pattern : String} {p : Pattern}
    (compiled : Pattern.compile pattern = .ok p) {m : Option String} {rest : String}
    (matched : p.matched? true c.rest = m) (ahead : c.rest = m.getD "" ++ rest) :
    (c.search op pattern).result = .ok (.ofMatched wanted m) ∧
      (c.search op pattern).after.Valid ∧ (c.search op pattern).after.rest = rest := by
  obtain ⟨ok, _, moved⟩ := h.attempt_of_compile compiled (optionsOf op)
  rw [anchored] at ok moved
  rw [matched] at ok moved
  rw [search, anchored]
  refine ⟨ok, ?_, moved.rest_eq h.wf ahead⟩
  exact h.perform (.attempt pattern ⟨true, true, wanted⟩)

/-- A step over all characters of a set that come first. -/
theorem Valid.search_manyOf {c : Cursor} (h : c.Valid) (op : MatchOp) {wanted : Wanted}
    (anchored : optionsOf op = ⟨true, true, wanted⟩) {pattern : String} {set : Pattern.CharSet}
    (compiled : Pattern.compile pattern = .ok ⟨Pattern.manyOf set⟩) :
    (c.search op pattern).result = .ok (.ofMatched wanted
        (if c.rest.toList.takeWhile set.contains = [] then none
          else some (String.ofList (c.rest.toList.takeWhile set.contains)))) ∧
      (c.search op pattern).after.Valid ∧
      (c.search op pattern).after.rest =
        String.ofList (c.rest.toList.dropWhile set.contains) := by
  refine h.search_anchored op anchored compiled (Pattern.matched?_manyOf set c.rest) ?_
  have whole : c.rest = String.ofList (c.rest.toList.takeWhile set.contains)
      ++ String.ofList (c.rest.toList.dropWhile set.contains) := by
    rw [← String.ofList_append, List.takeWhile_append_dropWhile, String.ofList_toList]
  split
  · next nothing =>
    rw [nothing] at whole
    exact whole
  · exact whole

/-- A step over one character of a set, if such a one comes first. -/
theorem Valid.search_oneOf {c : Cursor} (h : c.Valid) (op : MatchOp) {wanted : Wanted}
    (anchored : optionsOf op = ⟨true, true, wanted⟩) {pattern : String} {set : Pattern.CharSet}
    (compiled : Pattern.compile pattern = .ok ⟨Pattern.oneOf set⟩) :
    (c.search op pattern).result = .ok (.ofMatched wanted
        ((c.rest.toList.head?.filter set.contains).map String.singleton)) ∧
      (c.search op pattern).after.Valid ∧
      (c.search op pattern).after.rest =
        String.ofList (c.rest.toList.drop (c.rest.toList.head?.filter set.contains).toList.length) := by
  refine h.search_anchored op anchored compiled (Pattern.matched?_oneOf set c.rest) ?_
  rw [← String.toList_inj, String.toList_append, String.toList_ofList]
  cases c.rest.toList with
  | nil => rfl
  | cons ch rest =>
    rw [List.head?_cons, Option.filter_some]
    cases set.contains ch with
    | false => rfl
    | true => simp

end Cursor

namespace Command

/-! ## The steps of reading a line -/

/-- The characters that end a word. -/
def isSeparator (ch : Char) : Bool :=
  ch == ' ' || ch == '\t'

theorem compile_blanks : Pattern.compile "\\s+" = .ok ⟨Pattern.manyOf .blank⟩ := rfl

theorem compile_word : Pattern.compile "\\w+" = .ok ⟨Pattern.manyOf .word⟩ := rfl

theorem compile_separator : ∃ set : Pattern.CharSet,
    Pattern.compile "[ \\t]" = .ok ⟨Pattern.oneOf set⟩ ∧ set.contains = isSeparator := by
  refine ⟨.union (.union .empty (.single ' ')) (.single '\t'), rfl, ?_⟩
  funext ch
  simp [Pattern.CharSet.contains, isSeparator, beq_eq_decide]

/-- The first step moves over the blank characters before the word. -/
theorem skip_blanks (line : String) :
    ∃ n, ((Cursor.new line).skip "\\s+").result = .ok n ∧
      ((Cursor.new line).skip "\\s+").after.Valid ∧
      ((Cursor.new line).skip "\\s+").after.rest =
        String.ofList (line.toList.dropWhile Text.isBlank) := by
  obtain ⟨ok, valid, rest⟩ :=
    (Cursor.valid_new line).search_manyOf .skip rfl compile_blanks
  rw [Cursor.rest_new] at rest
  exact ⟨_, Cursor.result_answerAs_of_ok ok Cursor.MatchResult.lengthOr, valid, rest⟩

/-- The second step gives the word, if there is one, and moves over it. -/
theorem scan_word {c : Cursor} (h : c.Valid) :
    (c.scan "\\w+").result = .ok
        (if c.rest.toList.takeWhile isWordChar = [] then none
          else some (String.ofList (c.rest.toList.takeWhile isWordChar))) ∧
      (c.scan "\\w+").after.Valid ∧
      (c.scan "\\w+").after.rest = String.ofList (c.rest.toList.dropWhile isWordChar) := by
  obtain ⟨ok, valid, rest⟩ := h.search_manyOf .scan rfl compile_word
  exact ⟨Cursor.result_answerAs_of_ok ok Cursor.MatchResult.textOr, valid, rest⟩

/-- The third step moves over a separator, if one comes first. -/
theorem skip_separator {c : Cursor} (h : c.Valid) :
    let taken := (c.rest.toList.head?.filter isSeparator).toList
    (c.skip "[ \\t]").result = .ok taken.length ∧ (c.skip "[ \\t]").after.Valid ∧
      (c.skip "[ \\t]").after.rest = String.ofList (c.rest.toList.drop taken.length) := by
  obtain ⟨set, compiled, same⟩ := compile_separator
  obtain ⟨ok, valid, rest⟩ := h.search_oneOf .skip rfl compiled
  rw [same] at ok rest
  refine ⟨?_, valid, rest⟩
  rw [Cursor.skip, Cursor.result_answerAs_of_ok ok Cursor.MatchResult.lengthOr]
  cases c.rest.toList.head?.filter isSeparator with
  | none => rfl
  | some ch => simp [Cursor.MatchResult.ofMatched, Cursor.MatchResult.lengthOr, Cursor.lengthOf]

/-! ## Lines without a cursor -/

/-- The word and the argument of a line, of which the blank characters at its start have been left
out. -/
def parts (read : List Char) : Except CommandError (Option (String × String)) :=
  if read = [] then .ok none
  else if read.takeWhile isWordChar = [] then .error (.unknownCommand (String.ofList read))
  else
    match read.dropWhile isWordChar with
    | [] => .ok (some (String.ofList (read.takeWhile isWordChar), ""))
    | ch :: argument =>
      if isSeparator ch then
        .ok (some (String.ofList (read.takeWhile isWordChar), String.ofList argument))
      else .error (.unknownCommand (String.ofList read))

/-- What follows the word of a line: nothing, or a separator and the argument. -/
theorem result_separated {c : Cursor} (h : c.Valid) (word : String) :
    (((c.skip "[ \\t]").mapError CommandError.scan).andThen fun n c =>
        if n = 0 && !c.atEnd then .fail (.unknownCommand (word ++ c.rest)) c
        else ⟨.ok (some (word, c.rest)), c, [.split word c.rest]⟩).result =
      match c.rest.toList with
      | [] => .ok (some (word, ""))
      | ch :: argument =>
        if isSeparator ch then .ok (some (word, String.ofList argument))
        else .error (.unknownCommand (word ++ c.rest)) := by
  obtain ⟨skipped, valid, rest⟩ := skip_separator h
  rw [Effect.result_andThen_of_ok (Effect.result_mapError_of_ok skipped CommandError.scan),
    Effect.after_mapError]
  have atEnd := valid.wf.atEnd_iff_rest
  generalize (c.skip "[ \\t]").after = d at rest atEnd ⊢
  cases chars : c.rest.toList with
  | nil =>
    have nothing : d.rest = "" := by rw [rest, chars]; rfl
    rw [atEnd.2 nothing, Bool.not_true, Bool.and_false, nothing]
    rfl
  | cons ch argument =>
    rw [chars, List.head?_cons, Option.filter_some] at rest
    rw [List.head?_cons, Option.filter_some]
    cases separates : isSeparator ch with
    | true =>
      rw [separates] at rest
      have behind : d.rest = String.ofList argument := rest
      rw [behind]
      simp only [separates]
      rfl
    | false =>
      rw [separates] at rest
      have behind : d.rest = String.ofList (ch :: argument) := rest
      have ahead : d.atEnd = false := by
        rw [← Bool.not_eq_true, atEnd, behind, ← String.toList_eq_nil_iff, String.toList_ofList]
        exact List.cons_ne_nil ch argument
      have same : c.rest = String.ofList (ch :: argument) := by
        rw [← chars, String.ofList_toList]
      rw [ahead, behind, same]
      simp only [separates]
      rfl

/-- What a line is split into, said without a cursor. -/
theorem result_split (line : String) :
    (split line).result = parts (line.toList.dropWhile Text.isBlank) := by
  generalize hread : line.toList.dropWhile Text.isBlank = read
  have whole := List.takeWhile_append_dropWhile (p := isWordChar) (l := read)
  obtain ⟨_, skipped, valid, rest⟩ := skip_blanks line
  rw [split, Effect.result_andThen_of_ok (Effect.result_mapError_of_ok skipped CommandError.scan),
    Effect.after_mapError]
  generalize ((Cursor.new line).skip "\\s+").after = c at valid rest ⊢
  have chars : c.rest.toList = read := by rw [rest, String.toList_ofList, hread]
  have atEnd : c.atEnd = true ↔ read = [] := by
    rw [valid.wf.atEnd_iff_rest, ← String.toList_eq_nil_iff, chars]
  rw [parts]
  by_cases nothing : read = []
  · rw [if_pos (atEnd.2 nothing), if_pos nothing]
    rfl
  rw [if_neg (mt atEnd.1 nothing), if_neg nothing]
  -- the word, and what lies behind it
  obtain ⟨scanned, valid', rest'⟩ := scan_word valid
  rw [chars] at scanned rest'
  rw [Effect.result_andThen_of_ok (Effect.result_mapError_of_ok scanned CommandError.scan)]
  by_cases wordless : read.takeWhile isWordChar = []
  · rw [wordless, List.nil_append] at whole
    rw [if_pos wordless, if_pos wordless]
    show Except.error (CommandError.unknownCommand (c.scan "\\w+").after.rest) = _
    rw [rest', whole]
  · rw [if_neg wordless, if_neg wordless]
    refine (result_separated valid' _).trans ?_
    rw [rest', String.toList_ofList, ← String.ofList_append, whole]

/-- What a line is read as, said without a cursor. -/
theorem result_parse (line : String) :
    (parse line).result =
      match parts (line.toList.dropWhile Text.isBlank) with
      | .error e => .error e
      | .ok none => .ok none
      | .ok (some (word, argument)) => (ofWord word argument).map some := by
  rw [← result_split]
  cases given : (split line).result with
  | error e => rw [parse, Effect.result_andThen_of_error given]
  | ok parts? =>
    rw [parse, Effect.result_andThen_of_ok given]
    cases parts? with
    | none => rfl
    | some found => rfl

theorem parts_eq_none_iff {read : List Char} : parts read = .ok none ↔ read = [] := by
  rw [parts]
  constructor
  · intro nothing
    split at nothing
    · next h => exact h
    · split at nothing
      · cases nothing
      · split at nothing
        · cases nothing
        · split at nothing <;> cases nothing
  · intro nothing
    rw [if_pos nothing]

/-- The lines that hold no command are those of blank characters alone. -/
theorem parse_eq_none_iff (line : String) :
    (parse line).result = .ok none ↔ Text.allBlank line.toList = true := by
  rw [result_parse, ← Text.trimStart_eq_nil_iff, Text.trimStart, ← parts_eq_none_iff]
  cases parts (line.toList.dropWhile Text.isBlank) with
  | error e => simp only [reduceCtorEq]
  | ok parts? =>
    cases parts? with
    | none => exact ⟨fun _ => rfl, fun _ => rfl⟩
    | some found =>
      -- a word gives a command or an error, but never nothing
      obtain ⟨word, argument⟩ := found
      show (ofWord word argument).map some = .ok none ↔ _
      cases ofWord word argument with
      | error e => simp [Except.map]
      | ok command => simp [Except.map]

/-! ## What a word and an argument give -/

/-- What a word and an argument can give: a command that has no argument or has the given one as it
stands or as what it was read as, or one of four errors that name what they are about. -/
inductive Given (word argument : String) : Except CommandError Command → Prop
  | bare {command : Command} : command.argument? = none → Given word argument (.ok command)
  | verbatim {command : Command} : command.argument? = some argument →
      Given word argument (.ok command)
  | count (n : Nat) : Given word argument (.ok (.peek n))
  | key (key : Key) : Given word argument (.ok (.index key))
  | unknownCommand : Given word argument (.error (.unknownCommand word))
  | missingArgument : Given word argument (.error (.missingArgument word))
  | invalidCount :
      Given word argument (.error (.invalidCount (String.ofList (Text.trim argument.toList))))
  | invalidKey : Given word argument (.error (.scan (.invalidKey argument)))

theorem given_required (word argument : String) {f : String → Command}
    (same : (f argument).argument? = some argument) :
    Given word argument ((required word argument).map f) := by
  rw [required]
  split
  · exact .missingArgument
  · exact .verbatim same

theorem given_readCount (word argument : String) :
    Given word argument ((readCount argument).map .peek) := by
  unfold readCount
  split
  · exact .count 1
  · split
    · next n _ => exact .count n
    · exact .invalidCount

theorem given_readKey (word argument : String) :
    Given word argument ((required word argument).bind fun text => (readKey text).map .index) := by
  rw [required]
  split
  · exact .missingArgument
  · show Given word argument ((readKey argument).map .index)
    rw [readKey]
    split
    · next key _ => exact .key key
    · exact .invalidKey

theorem given_ofWord (word argument : String) : Given word argument (ofWord word argument) := by
  unfold ofWord
  split
  case h_1 => exact .verbatim rfl
  case h_2 => exact given_required "append" argument rfl
  case h_5 => exact given_readCount "peek" argument
  case h_11 => exact given_readKey "index" argument
  case h_15 =>
    split
    · exact given_required word argument rfl
    · exact .unknownCommand
  all_goals exact .bare rfl

end Command

end TextCursor
