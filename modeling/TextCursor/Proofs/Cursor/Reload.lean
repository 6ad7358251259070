import Mathlib.Data.List.Forall2
import Mathlib.Data.List.ReduceOption
import TextCursor.Proofs.Cursor.Compiling

/-!
# Reloading

A snapshot keeps the text, the position and the remembered match of a cursor; the offset is found
anew and the compiled patterns are lost. `Reachable.reload_unobservable` says that nothing is missed:
a cursor restored from a snapshot answers whatever follows as the cursor did that the snapshot is of,
and reloads can be put anywhere into a run without a change to its answers.

The restored cursor is the old one without its compiled patterns (`WF.restore_snapshot`), so what
remains is that these do not show, now for two runs that forget them at different places.
-/

namespace TextCursor.Cursor

/-! ## Valid cursors -/

/-- A cursor that may have come from anywhere: its two positions agree, and what it has compiled is
what some texts compile to. -/
structure Valid (c : Cursor) : Prop where
  wf : c.WF
  holds : ∃ used, c.patterns.Holds used

theorem Valid.perform {c : Cursor} (h : c.Valid) (a : Action) : (c.perform a).after.Valid := by
  obtain ⟨used, holds⟩ := h.holds
  exact ⟨h.wf.perform a, _, holds_perform holds a⟩

theorem Valid.runAll {c : Cursor} (h : c.Valid) (as : List Action) : (c.runAll as).Valid := by
  obtain ⟨used, holds⟩ := h.holds
  exact ⟨h.wf.runAll as, _, holds_runAll holds as⟩

theorem Valid.forget {c : Cursor} (h : c.Valid) : c.forget.Valid :=
  ⟨⟨h.wf.position_le, h.wf.offset_eq⟩, [], Pattern.Cache.holds_empty⟩

theorem valid_new (text : String) : (new text).Valid :=
  ⟨wf_new text, [], Pattern.Cache.holds_empty⟩

/-- The pattern that an attempt uses is what its text compiles to, whether it has been compiled
before or not. -/
theorem Valid.compile_eq {c : Cursor} (h : c.Valid) {pattern : String} {p : Pattern}
    (origin : c.patterns.find? pattern = some p ∨ Pattern.compile pattern = .ok p) :
    Pattern.compile pattern = .ok p := by
  obtain ⟨used, holds⟩ := h.holds
  rcases origin with found | compiled
  · exact ((holds.find?_iff pattern p).1 found).2
  · exact compiled

/-- Where its text is no pattern, an attempt fails and leaves all as it is. -/
theorem Valid.attempt_of_not_compile {c : Cursor} (h : c.Valid) {pattern : String}
    {cause : Pattern.SyntaxError} (fails : Pattern.compile pattern = .error cause)
    (options : MatchOptions) :
    (c.attempt pattern options).result = .error (.invalidPattern pattern cause) ∧
      (c.attempt pattern options).after = c := by
  rcases attempt_cases c pattern options with ⟨cause', fails', failed⟩ | ⟨p, m, origin, _⟩
  · rw [fails, Except.error.injEq] at fails'
    rw [fails']
    exact failed
  · rw [h.compile_eq origin] at fails
    cases fails

/-- What an attempt gives follows from what its text compiles to and from the rest. -/
theorem Valid.attempt_of_compile {c : Cursor} (h : c.Valid) {pattern : String} {p : Pattern}
    (compiled : Pattern.compile pattern = .ok p) (options : MatchOptions) :
    let m := p.matched? options.anchored c.rest
    (c.attempt pattern options).result = .ok (.ofMatched options.wanted m) ∧
      (c.attempt pattern options).after.matched = m ∧
      c.MovedOver (options.moved m) (c.attempt pattern options).after := by
  rcases attempt_cases c pattern options with ⟨cause, fails, _⟩ | ⟨q, m, origin, hm, given⟩
  · rw [compiled] at fails
    cases fails
  · rw [h.compile_eq origin, Except.ok.injEq] at compiled
    rw [← compiled, hm]
    exact given

theorem Reachable.valid {c : Cursor} (h : c.Reachable) : c.Valid := by
  induction h with
  | made h => exact ⟨h.wf, [], h.holds⟩
  | step a _ ih => exact ih.perform a

/-! ## Snapshots -/

/-- A cursor can always be restored from its own snapshot, and has lost its compiled patterns
alone. -/
theorem WF.restore_snapshot {c : Cursor} (h : c.WF) : restore c.snapshot = .ok c.forget := by
  rw [restore_eq]
  show (if c.position ≤ c.text.length then
    Except.ok (⟨c.text, c.position, Text.offsetOf c.text c.position, c.matched, .empty⟩ : Cursor)
    else _) = _
  rw [if_pos h.position_le, ← h.offset]
  rfl

theorem WF.perform_reload {c : Cursor} (h : c.WF) : c.perform .reload = .done .nothing c.forget := by
  rw [Cursor.perform, h.restore_snapshot]
  rfl

/-! ## Cursors and outcomes that look the same -/

/-- Two lists give the same under two functions where their members do, in pairs. -/
theorem map_eq_map_iff_forall₂ {α β γ : Type} {f : α → γ} {g : β → γ} {xs : List α}
    {ys : List β} : xs.map f = ys.map g ↔ List.Forall₂ (fun x y => f x = g y) xs ys := by
  rw [← List.forall₂_eq_eq_eq, List.forall₂_map_left_iff, List.forall₂_map_right_iff]

/-- Two cursors that show the same. -/
structure LooksLike (c d : Cursor) : Prop where
  text_eq : c.text = d.text
  position_eq : c.position = d.position
  matched_eq : c.matched = d.matched
  rest_eq : c.rest = d.rest
  atEnd_eq : c.atEnd = d.atEnd

theorem looksLike_forget (c : Cursor) : c.forget.LooksLike c :=
  ⟨rfl, rfl, rfl, rfl, rfl⟩

theorem looksLike_of_forget_eq {c d : Cursor} (h : c.forget = d.forget) : c.LooksLike d where
  text_eq := show c.forget.text = d.forget.text by rw [h]
  position_eq := show c.forget.position = d.forget.position by rw [h]
  matched_eq := show c.forget.matched = d.forget.matched by rw [h]
  rest_eq := show c.forget.rest = d.forget.rest by rw [h]
  atEnd_eq := show c.forget.atEnd = d.forget.atEnd by rw [h]

/-- Two outcomes of which the answer or error is the same, the cursors left show the same, and the
reports are the same but for those of compiling. -/
structure AnswersLike (e e' : Op Answer) : Prop where
  result_eq : e.result = e'.result
  after : e.after.LooksLike e'.after
  log_eq : e.log.filter (fun event => !event.isCompiling) =
    e'.log.filter fun event => !event.isCompiling

theorem answersLike_of_seen_eq {e e' : Op Answer} (h : seen e = seen e') : AnswersLike e e' where
  result_eq := congrArg Seen.result h
  after := looksLike_of_forget_eq (congrArg Seen.after h)
  log_eq := congrArg Seen.log h

/-- Actions do not tell apart what differs in its compiled patterns alone. -/
theorem Valid.seen_perform_eq {c d : Cursor} (hc : c.Valid) (hd : d.Valid)
    (same : c.forget = d.forget) (a : Action) : seen (c.perform a) = seen (d.perform a) := by
  obtain ⟨_, holds⟩ := hc.holds
  obtain ⟨_, holds'⟩ := hd.holds
  rw [seen_perform holds, seen_perform holds', same]

/-! ## Runs with reloads in them -/

/-- The actions of a run into which reloads have been put, where `none` stands for one. -/
def withReloads (steps : List (Option Action)) : List Action :=
  steps.map fun step => step.getD .reload

/-- The outcomes of the actions that were there before the reloads. -/
def dropReloads (steps : List (Option Action)) (outcomes : List (Op Answer)) : List (Op Answer) :=
  ((steps.zip outcomes).filter fun entry => entry.1.isSome).map Prod.snd

theorem performAll_withReloads {c d : Cursor} (hc : c.Valid) (hd : d.Valid)
    (same : c.forget = d.forget) (steps : List (Option Action)) :
    List.Forall₂ AnswersLike (dropReloads steps (c.performAll (withReloads steps)))
      (d.performAll steps.reduceOption) := by
  -- the run without reloads has a cursor of its own, since it keeps what the other one forgets
  induction steps generalizing c d with
  | nil => exact .nil
  | cons step steps ih =>
    cases step with
    | none =>
      have reloaded : (c.perform .reload).after = c.forget := by
        rw [hc.wf.perform_reload]
        rfl
      show List.Forall₂ AnswersLike
        (dropReloads steps ((c.perform .reload).after.performAll (withReloads steps))) _
      rw [reloaded, List.reduceOption_cons_of_none]
      exact ih hc.forget hd same
    | some a =>
      have first := hc.seen_perform_eq hd same a
      rw [List.reduceOption_cons_of_some]
      exact .cons (answersLike_of_seen_eq first)
        (ih (hc.perform a) (hd.perform a) (congrArg Seen.after first))

theorem performAll_of_forget_eq {c d : Cursor} (hc : c.Valid) (hd : d.Valid)
    (same : c.forget = d.forget) (as : List Action) :
    List.Forall₂ AnswersLike (c.performAll as) (d.performAll as) := by
  obtain ⟨_, holds⟩ := hc.holds
  obtain ⟨_, holds'⟩ := hd.holds
  -- both show what the run shows that forgets before each step
  have shown : (c.performAll as).map seen = (d.performAll as).map seen :=
    (seen_performAll holds holds' same as).trans (seen_performAll holds' holds' rfl as).symm
  exact (map_eq_map_iff_forall₂.1 shown).imp fun _ _ => answersLike_of_seen_eq

/-- **Snapshots lose nothing that can be observed.** A reachable cursor can be restored from its
snapshot, the restored one shows the same and answers every run of actions alike, and a run with
reloads put into it gives the answers that it gives without. -/
theorem Reachable.reload_unobservable {c : Cursor} (h : c.Reachable) :
    ∃ restored, restore c.snapshot = .ok restored ∧ restored.LooksLike c ∧
      (∀ as, List.Forall₂ AnswersLike (restored.performAll as) (c.performAll as)) ∧
      ∀ steps, List.Forall₂ AnswersLike (dropReloads steps (c.performAll (withReloads steps)))
        (c.performAll steps.reduceOption) := by
  have valid := h.valid
  refine ⟨c.forget, valid.wf.restore_snapshot, looksLike_forget c, ?_, ?_⟩
  · intro as
    exact performAll_of_forget_eq valid.forget valid rfl as
  · intro steps
    exact performAll_withReloads valid valid rfl steps

/-- A reload behind a character of two bytes, with a match that is then taken back and a pattern that
is then used again. -/
theorem reload_unobservable_accented :
    let c := (new "né a").runAll [.search .scan "n", .search .skip "é"]
    let as : List Action := [.unscan, .getch, .search .check " ", .describe]
    let steps : List (Option Action) := [none, some .unscan, none, none, some (.search .scan "é")]
    c.Reachable ∧ c.offset = ⟨3⟩ ∧
    ∃ restored, restore c.snapshot = .ok restored ∧ restored.patterns.entries = [] ∧
      (restored.performAll as).map Effect.result = (c.performAll as).map Effect.result ∧
      List.Forall₂ AnswersLike
        (dropReloads steps (c.performAll [.reload, .unscan, .reload, .reload, .search .scan "é"]))
        (c.performAll [.unscan, .search .scan "é"]) := by
  intro c as steps
  have reached : c.Reachable := (Reachable.made (.new "né a")).runAll _
  obtain ⟨restored, made, -, alike, inserted⟩ := Reachable.reload_unobservable reached
  refine ⟨reached, by decide +kernel, restored, made, ?_, ?_, inserted steps⟩
  · rw [patterns_of_restore made]
    rfl
  · exact map_eq_map_iff_forall₂.2 ((alike as).imp fun _ _ like => like.result_eq)

end TextCursor.Cursor
