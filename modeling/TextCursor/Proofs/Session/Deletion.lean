import TextCursor.Proofs.Command.Line
import TextCursor.Session

/-!
# Lines that leave no trace

A line that fails, a blank line, and a line that only asks leave a session as it was, compiled
patterns and all. `failing_lines_leave_no_trace` says so of one line, and then of scripts: where
such lines are deleted from one, in any number and at any places, those that remain answer and
report what they did before, and the session ends as it did.
-/

namespace TextCursor

/-- Whether the command only asks, and so leaves the cursor as it is. -/
def Command.isQuery : Command → Bool
  | .peek _ | .rest | .pos | .eos | .char | .matched | .index _ | .state | .showCursor | .exit =>
    true
  | .new _ | .append _ | .search _ _ | .unscan | .getch => false

namespace Session

/-! ## One line -/

theorem after_reply_of_isQuery {command : Command} (h : command.isQuery = true) (c : Cursor) :
    (reply c command).after = c := by
  cases command with
  | new | append | search | unscan | getch => cases h
  | _ => rfl

/-- A command that fails has not changed the cursor: no error is raised once something has been
written. -/
theorem after_reply_of_error {c : Cursor} {command : Command} {e : ScanError}
    (h : (reply c command).result = .error e) : (reply c command).after = c := by
  cases command with
  | search op pattern =>
    rcases Cursor.attempt_cases c pattern (Cursor.optionsOf op) with
      ⟨_, _, _, same⟩ | ⟨p, m, _, _, ok, _⟩
    · exact same
    · have answered : (reply c (.search op pattern)).result = .ok _ :=
        Effect.result_map_of_ok ok fun r => Reply.output (showResult r)
      rw [answered] at h
      cases h
  | getch =>
    rcases c.getch_cases with ⟨_, failed⟩ | ⟨ch, _, _, _, ok, _⟩
    · show c.getch.after = c
      rw [failed, Effect.after_fail]
    · have answered : (reply c .getch).result = .ok _ :=
        Effect.result_map_of_ok ok fun ch => Reply.output (String.singleton ch)
      rw [answered] at h
      cases h
  | unscan =>
    cases hm : c.matched with
    | none =>
      show c.unscan.after = c
      rw [Cursor.unscan, hm]
    | some m => simp [reply, Cursor.unscan, hm, Except.map] at h
  | new | append => cases h
  | _ => rfl

theorem execute_of_error {s : Session} {line : String} {e : CommandError}
    (h : (Command.parse line).result = .error e) :
    s.execute line = ⟨.error e, s, (Command.parse line).log⟩ := by
  rw [execute]
  simp only [h]

theorem execute_of_none {s : Session} {line : String}
    (h : (Command.parse line).result = .ok none) :
    s.execute line = ⟨.ok .silent, s, (Command.parse line).log⟩ := by
  rw [execute]
  simp only [h]

theorem execute_of_command {s : Session} {line : String} {command : Command}
    (h : (Command.parse line).result = .ok (some command)) :
    s.execute line = (s.run command).logging (Command.parse line).log := by
  rw [execute]
  simp only [h]

/-- A line that fails leaves the session as it was, whether it is the line that cannot be read or
the command that cannot be run. -/
theorem after_execute_of_error {s : Session} {line : String} {e : CommandError}
    (h : (s.execute line).result = .error e) : (s.execute line).after = s := by
  cases parsed : (Command.parse line).result with
  | error e' => rw [execute_of_error parsed]
  | ok command? =>
    cases command? with
    | none => rw [execute_of_none parsed]
    | some command =>
      rw [execute_of_command parsed] at h ⊢
      show Session.mk (reply s.cursor command).after = s
      cases ran : (reply s.cursor command).result with
      | error e' => rw [after_reply_of_error ran]
      | ok r =>
        have answered : ((s.run command).logging (Command.parse line).log).result = .ok r :=
          Effect.result_mapError_of_ok ran CommandError.scan
        rw [answered] at h
        cases h

/-- Lines that may be left out: they fail, hold blank characters alone, or only ask. -/
inductive Traceless (s : Session) (line : String) : Prop
  | fails {e : CommandError} : (s.execute line).result = .error e → Traceless s line
  | blank : Text.allBlank line.toList = true → Traceless s line
  | asks {command : Command} : (Command.parse line).result = .ok (some command) →
      command.isQuery = true → Traceless s line

theorem Traceless.after_eq {s : Session} {line : String} (h : s.Traceless line) :
    (s.execute line).after = s := by
  cases h with
  | fails h => exact after_execute_of_error h
  | blank h => rw [execute_of_none ((Command.parse_eq_none_iff line).2 h)]
  | @asks command h isQuery =>
    rw [execute_of_command h]
    show Session.mk (reply s.cursor command).after = s
    rw [after_reply_of_isQuery isQuery]

/-! ## Scripts -/

/-- The session after some lines. -/
def afterAll (s : Session) (lines : List String) : Session :=
  lines.foldl (fun s line => (s.execute line).after) s

theorem executeAll_append (s : Session) (lines lines' : List String) :
    s.executeAll (lines ++ lines') = s.executeAll lines ++ (s.afterAll lines).executeAll lines' := by
  induction lines generalizing s with
  | nil => rfl
  | cons line lines ih =>
    rw [List.cons_append, executeAll, executeAll, ih]
    rfl

/-- Those of some things that are marked to be kept. -/
def kept {α : Type} (keep : List Bool) (xs : List α) : List α :=
  ((keep.zip xs).filter Prod.fst).map Prod.snd

theorem executeAll_kept {s : Session} {lines : List String} {keep : List Bool}
    (length_eq : keep.length = lines.length)
    (deleted : ∀ i line, lines[i]? = some line → keep[i]? = some false →
      (s.afterAll (lines.take i)).Traceless line) :
    s.executeAll (kept keep lines) = kept keep (s.executeAll lines) ∧
      s.afterAll (kept keep lines) = s.afterAll lines := by
  induction lines generalizing s keep with
  | nil =>
    rw [List.length_nil, List.length_eq_zero_iff] at length_eq
    subst length_eq
    exact ⟨rfl, rfl⟩
  | cons line lines ih =>
    cases keep with
    | nil => cases length_eq
    | cons k keep =>
      -- what follows is judged in the session that the line leads to
      have rest := @ih (s.execute line).after keep (Nat.succ.inj length_eq)
        fun i l hl hk => deleted (i + 1) l hl hk
      cases k with
      | true =>
        refine ⟨?_, rest.2⟩
        show s.execute line :: (s.execute line).after.executeAll (kept keep lines) = _
        rw [rest.1]
        rfl
      | false =>
        -- the line is left out, and the session is the same with it
        have same : (s.execute line).after = s := (deleted 0 line rfl rfl).after_eq
        rw [same] at rest
        refine ⟨rest.1.trans ?_, rest.2.trans ?_⟩
        · show kept keep (s.executeAll lines) =
            kept keep ((s.execute line).after.executeAll lines)
          rw [same]
        · show s.afterAll lines = (s.execute line).after.afterAll lines
          rw [same]

/-- **Lines that fail leave no trace**, and neither do those that are blank or only ask. -/
theorem failing_lines_leave_no_trace :
    (∀ (s : Session) (line : String) (e : CommandError),
      (s.execute line).result = .error e → (s.execute line).after = s) ∧
    ∀ (s : Session) (lines : List String) (keep : List Bool), keep.length = lines.length →
      (∀ i line, lines[i]? = some line → keep[i]? = some false →
        (s.afterAll (lines.take i)).Traceless line) →
      s.executeAll (kept keep lines) = kept keep (s.executeAll lines) ∧
        s.afterAll (kept keep lines) = s.afterAll lines :=
  ⟨fun _ _ _ => after_execute_of_error, fun _ _ _ => executeAll_kept⟩

/-- A failing line, and a script from which a line of each kind is deleted. -/
theorem leave_no_trace_script :
    let lines := ["append ab", "scan (", " ", "pos", "scan a"]
    let keep := [true, false, false, false, true]
    (new.execute "getch").result = .error (.scan (.endOfInput 0)) ∧
    (new.execute "getch").after = new ∧
    (∀ i line, lines[i]? = some line → keep[i]? = some false →
      (new.afterAll (lines.take i)).Traceless line) ∧
    new.executeAll ["append ab", "scan a"] = kept keep (new.executeAll lines) ∧
    new.afterAll ["append ab", "scan a"] = new.afterAll lines := by
  intro lines keep
  have fails : (new.execute "getch").result = .error (.scan (.endOfInput 0)) := by decide +kernel
  have deleted : ∀ i line, lines[i]? = some line → keep[i]? = some false →
      (new.afterAll (lines.take i)).Traceless line := by
    intro i line hline hkeep
    match i, hline, hkeep with
    | 1, rfl, _ =>
      have invalid : ((new.afterAll (lines.take 1)).execute "scan (").result.isOk = false := by
        decide +kernel
      cases failed : ((new.afterAll (lines.take 1)).execute "scan (").result with
      | error e => exact .fails failed
      | ok r => rw [failed] at invalid; cases invalid
    | 2, rfl, _ => exact .blank rfl
    | 3, rfl, _ =>
      have parsed : (Command.parse "pos").result = .ok (some .pos) := by decide +kernel
      exact .asks parsed rfl
    | 0, _, h => cases h
    | 4, _, h => cases h
    | n + 5, h, _ => cases h
  have scripts := failing_lines_leave_no_trace.2 new lines keep rfl deleted
  exact ⟨fails, failing_lines_leave_no_trace.1 new "getch" _ fails, deleted, scripts.1, scripts.2⟩

end Session

end TextCursor
