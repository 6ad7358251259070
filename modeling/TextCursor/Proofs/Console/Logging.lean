import TextCursor.Console.Logging
import TextCursor.Proofs.Console.Framing
import TextCursor.Proofs.Settings.Level

/-!
# The log is not in the way

A log that takes no more than warnings leaves the program as it is without one
(`runLogging_eq_run`): what a session reports about itself is all kept back, line by line
(`filterMap_notices`), and so is what is reported about the history. Only the warning about the
settings is written.

So two runs on one input whose settings differ in the level alone write the same, keep the same
history and end alike, but for that warning: `log_setting_unobserved`. It can be told from all else
that is written to the errors, since no error is worded like it
(`CommandError.unbracketed_message`).
-/

namespace TextCursor

namespace Text

/-- A text that has a first character, which opens no bracket. -/
def Unbracketed (s : String) : Prop :=
  ∃ c, s.toList.head? = some c ∧ c ≠ '['

theorem head?_toList_append {s : String} {c : Char} (first : s.toList.head? = some c) (t : String) :
    (s ++ t).toList.head? = some c := by
  rw [String.toList_append, List.head?_append, first]
  rfl

theorem Unbracketed.append {s : String} (h : Unbracketed s) (t : String) : Unbracketed (s ++ t) := by
  obtain ⟨c, first, other⟩ := h
  exact ⟨c, head?_toList_append first t, other⟩

end Text

open Text (Unbracketed head?_toList_append)

/-- The wording of an error begins with a letter, unlike a record, which begins with its level. -/
theorem ScanError.unbracketed_message (e : ScanError) : Unbracketed e.message := by
  have pattern : Unbracketed "Invalid pattern " := ⟨'I', by decide, by decide⟩
  have key : Unbracketed "Invalid index: " := ⟨'I', by decide, by decide⟩
  have index : Unbracketed "Index " := ⟨'I', by decide, by decide⟩
  have ended : Unbracketed "End of input at position " := ⟨'E', by decide, by decide⟩
  cases e with
  | invalidPattern source cause => exact (pattern.append _).append _
  | invalidKey text => exact key.append _
  | zeroStep k => exact (key.append _).append _
  | outOfRange i length => exact ((index.append _).append _).append _
  | endOfInput position => exact ended.append _

theorem CommandError.unbracketed_message (e : CommandError) : Unbracketed e.message := by
  have unknown : Unbracketed "Unknown command: " := ⟨'U', by decide, by decide⟩
  have missing : Unbracketed "Missing argument for " := ⟨'M', by decide, by decide⟩
  have count : Unbracketed "Invalid count: " := ⟨'I', by decide, by decide⟩
  cases e with
  | unknownCommand text => exact unknown.append _
  | missingArgument word => exact missing.append _
  | invalidCount text => exact count.append _
  | scan e => exact e.unbracketed_message

namespace Console

/-! ## What the log keeps back -/

theorem unlines_append (lines lines' : List String) :
    unlines (lines ++ lines') = unlines lines ++ unlines lines' := by
  rw [unlines, List.map_append, String.join_append]
  rfl

/-- Records that a log does not take are not written. -/
theorem filterMap_records {limit : LogLevel} {records : List Record}
    (kept : ∀ r ∈ records, limit.admits r.level = false) :
    (records.map Notice.record).filterMap (Notice.line? limit) = [] := by
  rw [List.filterMap_map, List.filterMap_eq_nil_iff]
  intro r mem
  rw [Function.comp_apply, Notice.line?, kept r mem]
  rfl

section Quiet

variable {limit : LogLevel} (quiet : limit.admits .debug = false)

include quiet

/-- One line: the log keeps back all its events. -/
theorem filterMap_events (log : List Event) :
    (log.map (.record ·.record)).filterMap (Notice.line? limit) = [] := by
  have records : log.map (.record ·.record) = (log.map Event.record).map Notice.record :=
    (List.map_map ..).symm
  rw [records]
  refine filterMap_records fun r mem => ?_
  obtain ⟨e, -, rfl⟩ := List.mem_map.1 mem
  exact quiet

/-- A run: of all that it has for the errors, those of the commands are written and nothing else. -/
theorem filterMap_notices (s : Session) (h : History) (lines : List (Option String)) :
    (notices s lines).filterMap (Notice.line? limit) = (runLines s h lines).errors := by
  induction lines generalizing s h with
  | nil => rfl
  | cons line? lines ih =>
    cases line? with
    | none => rfl
    | some line =>
      have others := ih (s.execute line).after (h.enter line)
      rw [notices_some, List.filterMap_append, filterMap_events quiet, List.nil_append,
        runLines_some]
      cases answered : (s.execute line).result with
      | error err => exact congrArg (err.message :: ·) others
      | ok reply =>
        cases reply with
        | exit => rfl
        | silent => exact others
        | output text =>
          refine others.trans ?_
          dsimp only
          split
          · rfl
          · rfl

/-- Before the first line the warning about the settings is written and nothing else. -/
theorem filterMap_opening {settings : Settings}
    (warned : settings.invalidLogLevel ≠ none → limit.admits .warn = true) :
    (opening settings).filterMap (Notice.line? limit) = settings.warning?.toList := by
  have unread : (settings.unreadRecord?.toList.map .record).filterMap (Notice.line? limit) = [] := by
    refine filterMap_records fun r mem => ?_
    obtain ⟨path, -, rfl⟩ := Option.map_eq_some_iff.1 (Option.mem_toList.1 mem)
    exact quiet
  rw [opening, List.map_append, List.filterMap_append, unread, List.append_nil,
    ← settings.map_line_warningRecord?, Settings.warningRecord?]
  cases given : settings.invalidLogLevel with
  | none => rfl
  | some value =>
    have takes := warned (by rw [given]; exact Option.some_ne_none value)
    exact List.filterMap_cons_some (if_pos takes)

theorem filterMap_closing (settings : Settings) (problem : Option String) :
    (closing settings problem).filterMap (Notice.line? limit) = [] := by
  refine filterMap_records fun r mem => ?_
  obtain ⟨why, -, unsaved⟩ := Option.bind_eq_some_iff.1 (Option.mem_toList.1 mem)
  obtain ⟨path, -, rfl⟩ := Option.map_eq_some_iff.1 unsaved
  exact quiet

end Quiet

/-- With a log that takes warnings at most, and takes the one about the settings if there is one,
the program does what it does without a log. -/
theorem runLogging_eq_run {settings : Settings} (quiet : settings.logLevel.admits .debug = false)
    (warned : settings.invalidLogLevel ≠ none → settings.logLevel.admits .warn = true)
    (problem : Option String) (input : List UInt8) :
    runLogging settings problem input = run settings input := by
  have lines : (opening settings ++ notices .new ((pieces input).map Piece.line?)
      ++ closing settings problem).filterMap (Notice.line? settings.logLevel) =
        settings.warning?.toList
          ++ (runLines .new .empty ((pieces input).map Piece.line?)).errors := by
    rw [List.filterMap_append, List.filterMap_append, filterMap_opening quiet warned,
      filterMap_notices quiet .new .empty, filterMap_closing quiet, List.append_nil]
  rw [runLogging, written, lines]
  rfl

/-- A log that takes more does write what is reported, here about a blank line. -/
example : (runLogging (Settings.ofVariables (some "debug") none none) none [lineFeed]).errors =
    "[DEBUG] (1) strscan::pattern: Compiling pattern: \\s+\n"
      ++ "[DEBUG] (1) strscan::scanner: No match at 0 for \"\\\\s+\"\n" := by
  decide +kernel

/-! ## The warning and the other errors -/

/-- What the commands of an input have for the errors. -/
def complaints (input : List UInt8) : String :=
  unlines (runLines .new .empty (linesOf Piece.line? input)).errors

/-- The warning about a value of the variable, as it is written. -/
def warning (given : String) : String :=
  "[WARN] Ignoring invalid STRSCAN_LOG value: " ++ given ++ "\n"

/-- What is written to the errors with a value of the variable, where `errors` are those of the
commands: these alone if there is no value or it spells a level, and else the warning about the
value, as it was given, and then these. -/
inductive Warned (errors : String) : Option String → String → Prop
  | unset : Warned errors none errors
  | spelled {level : LogLevel} {given : String} :
      Settings.Spells level given → Warned errors (some given) errors
  | unnamed {given : String} :
      Settings.Unnamed given → Warned errors (some given) (warning given ++ errors)

theorem Warned.eq_of_spells {errors all given : String} {level : LogLevel}
    (h : Warned errors (some given) all) (spells : Settings.Spells level given) : all = errors := by
  cases h with
  | spelled _ => rfl
  | unnamed unnamed => exact absurd spells (unnamed level)

theorem Warned.eq_of_unnamed {errors all given : String} (h : Warned errors (some given) all)
    (unnamed : Settings.Unnamed given) : all = warning given ++ errors := by
  cases h with
  | spelled spells => exact absurd spells (unnamed _)
  | unnamed _ => rfl

theorem warned_run (value history home : Option String) (input : List UInt8) :
    Warned (complaints input) value
      (run (Settings.ofVariables value history home) input).errors := by
  have all : (run (Settings.ofVariables value history home) input).errors = unlines
      ((Settings.ofVariables value history home).warning?.toList
        ++ (runLines .new .empty (linesOf Piece.line? input)).errors) := rfl
  rw [all, unlines_append, Settings.warning?, Settings.invalidLogLevel_ofVariables]
  rcases Settings.readLevel_cases value with
    ⟨rfl, read⟩ | ⟨given, level, rfl, spells, read⟩ | ⟨given, rfl, unnamed, read⟩
  · rw [read]
    exact String.empty_append.symm ▸ .unset
  · rw [read]
    exact String.empty_append.symm ▸ .spelled spells
  · rw [read]
    exact .unnamed unnamed

/-- What a run on lines writes to the errors is worded by errors. -/
theorem unbracketed_errors (s : Session) (h : History) (lines : List (Option String)) :
    ∀ l ∈ (runLines s h lines).errors, Unbracketed l := by
  obtain ⟨before, stops⟩ := exists_stopsAfter s lines
  intro l mem
  rw [stops.runLines_eq] at mem
  obtain ⟨e, -, complained⟩ := List.mem_filterMap.1 mem
  obtain ⟨err, -, rfl⟩ := result_of_complaint? complained
  exact err.unbracketed_message

/-- What the commands have for the errors does not begin with a warning. -/
theorem complaints_ne_warning (input : List UInt8) (given rest : String) :
    complaints input ≠ warning given ++ rest := by
  intro same
  have opens : "[WARN] Ignoring invalid STRSCAN_LOG value: ".toList.head? = some '[' := by decide
  have bracket : (warning given ++ rest).toList.head? = some '[' :=
    head?_toList_append (head?_toList_append (head?_toList_append opens given) "\n") rest
  rw [← same, complaints] at bracket
  have worded := unbracketed_errors .new .empty (linesOf Piece.line? input)
  cases errors : (runLines .new .empty (linesOf Piece.line? input)).errors with
  | nil =>
    rw [errors] at bracket
    cases bracket
  | cons l lines =>
    rw [errors] at bracket worded
    obtain ⟨c, first, other⟩ := ((worded l List.mem_cons_self).append "\n").append (unlines lines)
    rw [unlines, List.map_cons, String.join_cons, ← unlines, first] at bracket
    exact other (Option.some.inj bracket)

/-! ## Two values of the variable -/

/-- **The setting of the log makes no difference.** With any two values that have no more than
warnings logged, the program writes the same output for an input, ends with the same code, and keeps
the same history in the same file, whatever goes wrong with saving it. It writes the same errors
too, but for the warning about a value that spells no level, which comes first and which no error
looks like. -/
theorem log_setting_unobserved {value value' : Option String} (quiet : Settings.Quiet value)
    (quiet' : Settings.Quiet value') (history home problem : Option String)
    (input : List UInt8) :
    let settings := Settings.ofVariables value history home
    let settings' := Settings.ofVariables value' history home
    let outcome := runLogging settings problem input
    let outcome' := runLogging settings' problem input
    (outcome = run settings input ∧ outcome' = run settings' input) ∧
    settings.history = settings'.history ∧
    outcome.output = outcome'.output ∧ outcome.code = outcome'.code ∧
    outcome.history = outcome'.history ∧
    ∃ errors, Warned errors value outcome.errors ∧ Warned errors value' outcome'.errors ∧
      ∀ given rest, errors ≠ warning given ++ rest := by
  intro settings settings' outcome outcome'
  have same {v : Option String} (h : Settings.Quiet v) :
      runLogging (Settings.ofVariables v history home) problem input =
        run (Settings.ofVariables v history home) input := by
    refine runLogging_eq_run h.not_admits (fun warned => ?_) problem input
    obtain ⟨given, invalid⟩ := Option.ne_none_iff_exists'.1 warned
    exact Settings.admits_warning invalid
  have first : outcome = run settings input := same quiet
  have second : outcome' = run settings' input := same quiet'
  rw [first, second]
  refine ⟨⟨rfl, rfl⟩, rfl, rfl, rfl, rfl, complaints input, ?_, ?_, complaints_ne_warning input⟩
  · exact warned_run value history home input
  · exact warned_run value' history home input

/-- A spelling of a level with blank characters that are not of ASCII, a text that is no level, and
an input with commands that fail. -/
theorem log_setting_unobserved_loud :
    let input := "new é\nnope\ngetch\ngetch\nstate".toUTF8.toList
    let outcome (value : String) :=
      runLogging (Settings.ofVariables (some value) none none) none input
    Settings.Quiet (some "\u2003wArN\n") ∧ Settings.Quiet (some " loud ") ∧
    (outcome " loud ").output = (outcome "\u2003wArN\n").output ∧
    (outcome " loud ").errors =
      "[WARN] Ignoring invalid STRSCAN_LOG value:  loud \n" ++ (outcome "\u2003wArN\n").errors := by
  intro input outcome
  have spells : Settings.Spells .warn "\u2003wArN\n" :=
    Settings.ofName?_trim_eq_some_iff.1 (by decide +kernel)
  have isUnnamed : Settings.Unnamed " loud " :=
    Settings.ofName?_trim_eq_none_iff.1 (by decide +kernel)
  have quiet : Settings.Quiet (some "\u2003wArN\n") := .named (.inr (.inr rfl)) spells
  have quiet' : Settings.Quiet (some " loud ") := .unnamed isUnnamed
  obtain ⟨-, -, output, -, -, errors, warned, warned', -⟩ :=
    log_setting_unobserved quiet quiet' none none none input
  refine ⟨quiet, quiet', output.symm, ?_⟩
  rw [warned.eq_of_spells spells, warned'.eq_of_unnamed isUnnamed]
  rfl

end Console

end TextCursor
