import TextCursor.Proofs.Cursor.Register
import TextCursor.Proofs.Key.RoundTrip
import TextCursor.Proofs.Lookup.Place
import TextCursor.Proofs.Session.Deletion
import TextCursor.Proofs.Snapshot.RoundTrip
import TextCursor.Proofs.Text.Lines

/-!
# Sessions on single lines

A session that is given single lines holds and answers single lines: its text and what it remembers as
matched have no line feed in them, nor has anything that it writes, be it an answer or an error
(`SingleLine.execute`, and of whole runs `SingleLine.executeAll`).

The text grows by arguments alone, and those are ends of lines. All else that is remembered or answered
is a piece of the text, a number, or a text in which line feeds are escaped.
-/

namespace TextCursor

open Text (OneLine)

/-! ## Errors -/

theorem Key.oneLine_toText (k : Key) : OneLine k.toText := by
  intro mem
  rcases mem_toText mem with colon | numeral
  · cases colon
  · cases numeral

/-- The wording of an error lies on one line, unless it repeats a text that does not. -/
theorem ScanError.oneLine_message {e : ScanError}
    (repeated : ∀ text, e = .invalidKey text → OneLine text) : OneLine e.message := by
  have number (n : Nat) := Text.oneLine_toString_nat n
  cases e with
  | invalidPattern source cause =>
    exact ((show OneLine "Invalid pattern " by decide).append (Text.oneLine_quoted source)).append
      (by decide)
  | invalidKey text => exact (show OneLine "Invalid index: " by decide).append (repeated text rfl)
  | zeroStep key =>
    exact ((show OneLine "Invalid index: " by decide).append key.oneLine_toText).append (by decide)
  | outOfRange index length =>
    exact (((show OneLine "Index " by decide).append (Text.oneLine_toString_int index)).append
      (by decide)).append (number length)
  | endOfInput position =>
    exact (show OneLine "End of input at position " by decide).append (number position)

/-! ## Cursors -/

namespace Cursor

/-- A cursor whose texts lie on one line each. -/
structure SingleLine (c : Cursor) : Prop where
  wf : c.WF
  text : OneLine c.text
  matched : ∀ m, c.matched = some m → OneLine m

theorem singleLine_new {text : String} (h : OneLine text) : (new text).SingleLine where
  wf := wf_new text
  text := h
  matched := by
    intro m register
    cases register

theorem SingleLine.rest {c : Cursor} (h : c.SingleLine) : OneLine c.rest := by
  rw [← String.ofList_toList (s := c.rest), h.wf.toList_rest]
  exact h.text.of_subset (List.drop_subset _ _)

/-- A cursor that has moved stays on single lines where what it remembers begins the rest. -/
theorem SingleLine.movedOver {c c' : Cursor} {piece : String} (h : c.SingleLine) (wf : c'.WF)
    (moved : c.MovedOver piece c')
    (begins : ∀ m, c'.matched = some m → ∃ rest, c.rest = m ++ rest) : c'.SingleLine := by
  refine ⟨wf, ?_, ?_⟩
  · rw [moved.text_eq]
    exact h.text
  · intro m remembered
    obtain ⟨rest, ahead⟩ := begins m remembered
    have whole := h.rest
    rw [ahead] at whole
    exact (Text.oneLine_append.1 whole).1

theorem SingleLine.attempt {c : Cursor} (h : c.SingleLine) (pattern : String)
    (options : MatchOptions) : (c.attempt pattern options).after.SingleLine := by
  rcases attempt_cases c pattern options with ⟨_, _, _, same⟩ | ⟨p, m, _, hm, _, register, moved⟩
  · rw [same]
    exact h
  · refine h.movedOver (h.wf.attempt pattern options) moved fun m' remembered => ?_
    rw [register] at remembered
    exact Pattern.matched?_append (hm.trans remembered)

theorem SingleLine.getch {c : Cursor} (h : c.SingleLine) : c.getch.after.SingleLine := by
  rcases getch_cases c with ⟨_, failed⟩ | ⟨ch, rest, _, ahead, _, register, moved⟩
  · rw [failed]
    exact h
  · refine h.movedOver h.wf.getch moved fun m remembered => ?_
    rw [register] at remembered
    cases remembered
    exact ⟨rest, ahead⟩

theorem SingleLine.unscan {c : Cursor} (h : c.SingleLine) : c.unscan.after.SingleLine := by
  refine ⟨h.wf.unscan, ?_, ?_⟩
  · have text_eq : c.unscan.after.text = c.text := by
      rw [Cursor.unscan]
      cases c.matched <;> rfl
    rw [text_eq]
    exact h.text
  · intro m remembered
    rw [matched_unscan] at remembered
    cases remembered

theorem SingleLine.append {c : Cursor} (h : c.SingleLine) {suffix : String}
    (added : OneLine suffix) : (c.append suffix).SingleLine :=
  ⟨h.wf.append suffix, h.text.append added, h.matched⟩

theorem SingleLine.describe {c : Cursor} (h : c.SingleLine) : OneLine c.describe := by
  -- a long text is cut, which leaves its first characters
  have shown : OneLine (if shownLength < c.text.length then
      String.ofList (c.text.toList.take shownLength) ++ "..." else c.text) := by
    split
    · exact (h.text.of_subset (List.take_subset _ _)).append (by decide)
    · exact h.text
  have position : OneLine ("<StringScanner: position=" ++ toString c.position) :=
    (show OneLine "<StringScanner: position=" by decide).append (Text.oneLine_toString_nat _)
  exact ((position.append (by decide)).append shown).append (by decide)

end Cursor

/-! ## Commands -/

namespace Command

/-- A command whose argument lies on one line, if it has one. -/
def SingleLine (command : Command) : Prop :=
  ∀ argument, command.argument? = some argument → OneLine argument

theorem Given.singleLine {word argument : String} {command : Command}
    (h : Given word argument (.ok command)) (one : OneLine argument) : command.SingleLine := by
  intro a given
  cases h with
  | bare none =>
    rw [none] at given
    cases given
  | verbatim same =>
    rw [same] at given
    cases given
    exact one
  | count n =>
    cases given
    exact Text.oneLine_toString_nat n
  | key key =>
    cases given
    exact key.oneLine_toText

theorem Given.oneLine_message {word argument : String} {e : CommandError}
    (h : Given word argument (.error e)) (one : OneLine word) (one' : OneLine argument) :
    OneLine e.message := by
  cases h with
  | unknownCommand => exact (show OneLine "Unknown command: " by decide).append one
  | missingArgument => exact (show OneLine "Missing argument for " by decide).append one
  | invalidCount =>
    exact (show OneLine "Invalid count: " by decide).append
      (one'.of_subset fun c mem => Text.mem_of_mem_trim mem)
  | invalidKey =>
    refine ScanError.oneLine_message fun text same => ?_
    cases same
    exact one'

/-- The word and the argument of a line are pieces of it, and so is what is repeated of a line that
has none. -/
theorem parts_singleLine {read : List Char} (h : '\n' ∉ read) :
    (∀ word argument, parts read = .ok (some (word, argument)) → OneLine word ∧ OneLine argument) ∧
      ∀ e, parts read = .error e → OneLine e.message := by
  have one : OneLine (String.ofList read) := Text.oneLine_ofList.2 h
  have piece {cs : List Char} (among : cs ⊆ read) : OneLine (String.ofList cs) :=
    Text.oneLine_ofList.2 fun mem => h (among mem)
  have word := piece (List.takeWhile_subset Unicode.isWordChar)
  have unknown : OneLine (CommandError.unknownCommand (String.ofList read)).message :=
    (show OneLine "Unknown command: " by decide).append one
  rw [parts]
  split
  · exact ⟨by simp, by simp⟩
  split
  · refine ⟨by simp, ?_⟩
    rintro e ⟨⟩
    exact unknown
  split
  · refine ⟨?_, by simp⟩
    rintro _ _ ⟨⟩
    exact ⟨word, by decide⟩
  next ch argument behind =>
    split
    · -- the separator is left out, and what lies behind it is the argument
      refine ⟨?_, by simp⟩
      rintro _ _ ⟨⟩
      have among : ch :: argument ⊆ read := behind ▸ (List.dropWhile_sublist Unicode.isWordChar).subset
      exact ⟨word, piece fun c mem => among (List.mem_cons_of_mem ch mem)⟩
    · refine ⟨by simp, ?_⟩
      rintro e ⟨⟩
      exact unknown

/-- What is read from a line lies on one line: the command with its argument, or the error. -/
theorem parse_singleLine {line : String} (h : OneLine line) :
    (∀ command, (parse line).result = .ok (some command) → command.SingleLine) ∧
      ∀ e, (parse line).result = .error e → OneLine e.message := by
  have read : '\n' ∉ line.toList.dropWhile Text.isBlank :=
    fun mem => h ((List.dropWhile_sublist Text.isBlank).subset mem)
  obtain ⟨pieces, failed⟩ := parts_singleLine read
  rw [result_parse]
  cases found : parts (line.toList.dropWhile Text.isBlank) with
  | error e =>
    refine ⟨by simp, ?_⟩
    rintro _ ⟨⟩
    exact failed e found
  | ok parts? =>
    cases parts? with
    | none => exact ⟨by simp, by simp⟩
    | some both =>
      obtain ⟨word, argument⟩ := both
      obtain ⟨one, one'⟩ := pieces word argument found
      have given := given_ofWord word argument
      show (∀ command, (ofWord word argument).map some = .ok (some command) → _) ∧
        ∀ e, (ofWord word argument).map some = .error e → _
      cases read : ofWord word argument with
      | ok command =>
        rw [read] at given
        refine ⟨?_, by simp [Except.map]⟩
        rintro _ ⟨⟩
        exact given.singleLine one'
      | error e =>
        rw [read] at given
        refine ⟨by simp [Except.map], ?_⟩
        rintro _ ⟨⟩
        exact given.oneLine_message one one'

end Command

/-! ## Sessions -/

namespace Session

theorem oneLine_orNil {m : Option String} (h : ∀ s, m = some s → OneLine s) : OneLine (orNil m) := by
  cases m with
  | none => exact (show OneLine "nil" by decide)
  | some s => exact h s rfl

theorem oneLine_showResult {m : Option String} (h : ∀ s, m = some s → OneLine s)
    (wanted : Cursor.Wanted) : OneLine (showResult (.ofMatched wanted m)) := by
  cases wanted with
  | text => exact oneLine_orNil h
  | length => exact Text.oneLine_toString_nat _

theorem singleLine_after_reply {c : Cursor} (h : c.SingleLine) {command : Command}
    (one : command.SingleLine) : (reply c command).after.SingleLine := by
  cases command with
  | new text => exact Cursor.singleLine_new (one text rfl)
  | append text => exact h.append (one text rfl)
  | search op pattern => exact h.attempt pattern (Cursor.optionsOf op)
  | unscan => exact h.unscan
  | getch => exact h.getch
  | _ => exact h

/-- What is written for a result lies on one line. -/
inductive OneLineResult {ε : Type} (message : ε → String) : Except ε Reply → Prop
  | silent : OneLineResult message (.ok .silent)
  | exit : OneLineResult message (.ok .exit)
  | output {text : String} : OneLine text → OneLineResult message (.ok (.output text))
  | error {e : ε} : OneLine (message e) → OneLineResult message (.error e)

theorem OneLineResult.oneLine_output {ε : Type} {message : ε → String} {text : String}
    (h : OneLineResult message (.ok (.output text))) : OneLine text := by
  cases h with
  | output one => exact one

theorem OneLineResult.oneLine_error {ε : Type} {message : ε → String} {e : ε}
    (h : OneLineResult message (.error e)) : OneLine (message e) := by
  cases h with
  | error one => exact one

/-- Whatever a command answers about a cursor on single lines lies on one line. Where it fails it
repeats no text, but between quotes. -/
theorem oneLine_reply {c : Cursor} (h : c.SingleLine) (command : Command) :
    OneLineResult ScanError.message (reply c command).result := by
  cases command with
  | new | append => exact .silent
  | exit => exact .exit
  | unscan =>
    rw [reply, Effect.result_map, Cursor.unscan]
    cases c.matched with
    | none => exact .silent
    | some m => exact .silent
  | search op pattern =>
    show OneLineResult _ ((c.attempt pattern (Cursor.optionsOf op)).result.map _)
    rcases Cursor.attempt_cases c pattern (Cursor.optionsOf op) with
      ⟨_, _, failed, _⟩ | ⟨p, m, _, _, ok, register, _⟩
    · rw [failed]
      exact .error (ScanError.oneLine_message (by simp))
    · rw [ok]
      -- what was matched is what is remembered
      have remembered := (h.attempt pattern (Cursor.optionsOf op)).matched
      rw [register] at remembered
      exact .output (oneLine_showResult remembered _)
  | getch =>
    rw [reply, Effect.result_map]
    rcases c.getch_cases with ⟨_, failed⟩ | ⟨ch, _, _, _, ok, register, _⟩
    · rw [failed]
      exact .error (ScanError.oneLine_message (by simp))
    · rw [ok]
      exact .output (h.getch.matched _ register)
  | peek n =>
    exact .output (h.rest.of_subset fun c mem => List.mem_of_mem_drop (List.mem_of_mem_take mem))
  | rest => exact .output h.rest
  | pos => exact .output (Text.oneLine_toString_nat c.position)
  | eos =>
    refine .output ?_
    cases c.atEnd with
    | true => exact (show OneLine "true" by decide)
    | false => exact (show OneLine "false" by decide)
  | char =>
    refine .output (oneLine_orNil fun s current => ?_)
    obtain ⟨ch, first, rfl⟩ := Option.map_eq_some_iff.1 current
    exact h.rest.singleton (List.mem_of_mem_head? first)
  | matched => exact .output (oneLine_orNil h.matched)
  | index key =>
    show OneLineResult _ ((Lookup.get c.text key).map Reply.output)
    rcases Lookup.get_cases c.text key with ⟨cs, among, got⟩ | ⟨_, got⟩ | got
    · rw [got]
      exact .output (h.text.of_subset among)
    · rw [got]
      exact .error (ScanError.oneLine_message (by simp))
    · rw [got]
      exact .error (ScanError.oneLine_message (by simp))
  | state =>
    refine .output fun mem => ?_
    exact absurd (Snapshot.plain_toJson c.snapshot _ mem) (by decide)
  | showCursor => exact .output h.describe

theorem OneLineResult.mapError {result : Except ScanError Reply}
    (h : OneLineResult ScanError.message result) :
    OneLineResult CommandError.message (result.mapError .scan) := by
  cases h with
  | silent => exact .silent
  | exit => exact .exit
  | output h => exact .output h
  | error h => exact .error h

/-- A session whose cursor is on single lines. -/
def SingleLine (s : Session) : Prop :=
  s.cursor.SingleLine

theorem singleLine_new : new.SingleLine :=
  Cursor.singleLine_new (show OneLine "" by decide)

/-- One line: the session stays on single lines, and what is written for the line lies on one. -/
theorem SingleLine.execute {s : Session} (h : s.SingleLine) {line : String} (one : OneLine line) :
    (s.execute line).after.SingleLine ∧
      OneLineResult CommandError.message (s.execute line).result := by
  -- only a line that is read as a command reaches the cursor
  obtain ⟨commands, errors⟩ := Command.parse_singleLine one
  cases parsed : (Command.parse line).result with
  | error e =>
    rw [execute_of_error parsed]
    exact ⟨h, .error (errors e parsed)⟩
  | ok command? =>
    cases command? with
    | none =>
      rw [execute_of_none parsed]
      exact ⟨h, .silent⟩
    | some command =>
      rw [execute_of_command parsed]
      exact ⟨singleLine_after_reply h (commands command parsed), (oneLine_reply h command).mapError⟩

/-- A run: the session is on single lines after it, and all that is written lies on lines of its own. -/
theorem SingleLine.executeAll {s : Session} (h : s.SingleLine) {lines : List String}
    (one : ∀ line ∈ lines, OneLine line) :
    (s.afterAll lines).SingleLine ∧
      ∀ e ∈ s.executeAll lines, OneLineResult CommandError.message e.result := by
  induction lines generalizing s with
  | nil => exact ⟨h, fun e mem => absurd mem List.not_mem_nil⟩
  | cons line lines ih =>
    obtain ⟨after, result⟩ := h.execute (one line List.mem_cons_self)
    obtain ⟨last, results⟩ := ih after fun line mem => one line (List.mem_cons_of_mem _ mem)
    refine ⟨last, fun e mem => ?_⟩
    rcases List.mem_cons.1 mem with rfl | mem
    · exact result
    · exact results e mem

end Session

end TextCursor
