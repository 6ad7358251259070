import TextCursor.Proofs.Cursor.Consumption
import TextCursor.Proofs.Cursor.Reload

/-!
# What is remembered lies at the cursor

What a cursor remembers as matched touches the cursor: it ends the text behind where the match was
moved over, and begins the text ahead where it was only looked at. `Fresh.register_contiguous` says so
of every cursor that has not been restored from a snapshot of something else, at every point of any
run.

On which side the match lies is a matter of history, so the invariant (`Contiguous`) is about a cursor
together with the kind of the latest action that remembered something (`lastSide`).
-/

namespace TextCursor.Cursor

/-! ## Sides of the cursor -/

/-- The text behind the cursor. -/
def behind (c : Cursor) : String :=
  String.ofList (c.text.toList.take c.position)

/-- On which side of the cursor a match lies. -/
inductive Side where
  | behind
  | ahead
  deriving DecidableEq, Repr

/-- The side on which an attempt to match leaves what it matched. -/
def MatchOptions.side (options : MatchOptions) : Side :=
  if options.advance then .behind else .ahead

/-- The side on which an action leaves what it remembers, if it remembers anything. -/
def Action.side? : Action → Option Side
  | .attempt _ options => some options.side
  | .search op _ => some (optionsOf op).side
  | .getch => some .behind
  | _ => none

/-- Whether an action writes what is remembered: it is of a kind that does, and it succeeds. -/
def remembers (c : Cursor) (a : Action) : Bool :=
  a.side?.isSome && (c.perform a).result.isOk

/-- The side of the latest action that wrote what is remembered, after one more action. -/
def sideAfter (c : Cursor) (side : Option Side) (a : Action) : Option Side :=
  if c.remembers a then a.side? else side

/-- The side of the latest action of a run that wrote what is remembered. -/
def lastSide (c : Cursor) (side : Option Side) : List Action → Option Side
  | [] => side
  | a :: as => (c.perform a).after.lastSide (c.sideAfter side a) as

/-- What is remembered touches the cursor on the given side. -/
def Contiguous (c : Cursor) (side : Option Side) : Prop :=
  ∀ m, c.matched = some m →
    match side with
    | some .behind => m.length ≤ c.position ∧ ∃ before, c.behind = before ++ m
    | some .ahead => ∃ after, c.rest = m ++ after
    | none => False

/-! ## How the text behind changes -/

theorem MatchOptions.moved_of_stays {options : MatchOptions} (h : options.advance = false)
    (m : Option String) : options.moved m = "" := by
  rw [moved, h]
  rfl

theorem MatchOptions.moved_some {options : MatchOptions} (h : options.advance = true) (m : String) :
    options.moved (some m) = m := by
  rw [moved, h]
  rfl

theorem WF.behind_append_rest {c : Cursor} (h : c.WF) : c.behind ++ c.rest = c.text :=
  h.text_eq.symm

theorem MovedOver.behind_eq {c c' : Cursor} {piece rest : String} (h : c.MovedOver piece c')
    (wf : c.WF) (ahead : c.rest = piece ++ rest) : c'.behind = c.behind ++ piece := by
  have same : c'.behind ++ rest = c.behind ++ piece ++ rest := by
    calc c'.behind ++ rest = c'.text := by
          rw [← (h.wf wf ahead).behind_append_rest, h.rest_eq wf ahead]
      _ = c.behind ++ c.rest := by rw [h.text_eq, wf.behind_append_rest]
      _ = _ := by rw [ahead, String.append_assoc]
  rwa [String.append_left_inj] at same

theorem WF.behind_append {c : Cursor} (h : c.WF) (suffix : String) :
    (c.append suffix).behind = c.behind := by
  have le : c.position ≤ c.text.toList.length := by
    rw [String.length_toList]
    exact h.position_le
  show String.ofList ((c.text ++ suffix).toList.take c.position) = _
  rw [String.toList_append, List.take_append_of_le_length le, behind]

/-- What has just been moved over and remembered ends the text behind. -/
theorem MovedOver.contiguous {c c' : Cursor} {piece rest : String} (h : c.MovedOver piece c')
    (wf : c.WF) (ahead : c.rest = piece ++ rest) (register : c'.matched = some piece) :
    c'.Contiguous (some .behind) := by
  intro m hm
  rw [register, Option.some.injEq] at hm
  subst hm
  refine ⟨?_, c.behind, h.behind_eq wf ahead⟩
  rw [h.position_eq]
  exact Nat.le_add_left _ _

theorem contiguous_of_none {c : Cursor} (h : c.matched = none) (side : Option Side) :
    c.Contiguous side := by
  intro m hm
  rw [h] at hm
  cases hm

/-! ## One step -/

theorem WF.contiguous_attempt {c : Cursor} (h : c.WF) {side : Option Side}
    (hc : c.Contiguous side) (pattern : String) (options : MatchOptions) :
    (c.attempt pattern options).after.Contiguous
      (c.sideAfter side (.attempt pattern options)) := by
  rcases attempt_cases c pattern options with
    ⟨cause, _, failed, same⟩ | ⟨p, m, _, hm, ok, register, moved⟩
  · have failure : (c.perform (.attempt pattern options)).result = .error _ :=
      Effect.result_map_of_error failed Answer.matched
    rw [sideAfter, remembers, failure, same]
    exact hc
  · have answered : (c.perform (.attempt pattern options)).result = .ok (.matched _) :=
      Effect.result_map_of_ok ok Answer.matched
    rw [sideAfter, remembers, answered]
    show Contiguous _ (some options.side)
    cases m with
    | none => exact contiguous_of_none register _
    | some m =>
      obtain ⟨rest, ahead⟩ := rest_eq_moved hm
      rw [MatchOptions.side]
      cases advance : options.advance with
      | true =>
        -- the match has been moved over
        rw [MatchOptions.moved_some advance] at moved ahead
        exact moved.contiguous h ahead register
      | false =>
        -- the cursor has stayed before the match
        rw [MatchOptions.moved_of_stays advance] at moved
        intro m' hm'
        rw [register, Option.some.injEq] at hm'
        subst hm'
        obtain ⟨after, begins⟩ := Pattern.matched?_append hm
        exact ⟨after, (moved.rest_eq h String.empty_append.symm).trans begins⟩

theorem WF.contiguous_getch {c : Cursor} (h : c.WF) {side : Option Side}
    (hc : c.Contiguous side) : c.getch.after.Contiguous (c.sideAfter side .getch) := by
  rcases getch_cases c with ⟨_, failed⟩ | ⟨ch, rest, _, ahead, ok, register, moved⟩
  · have failure : (c.perform .getch).result = .error _ :=
      Effect.result_map_of_error (congrArg Effect.result failed) Answer.char
    rw [sideAfter, remembers, failure, failed]
    exact hc
  · have answered : (c.perform .getch).result = .ok (.char ch) :=
      Effect.result_map_of_ok ok Answer.char
    rw [sideAfter, remembers, answered]
    exact moved.contiguous h ahead register

theorem WF.contiguous_append {c : Cursor} (h : c.WF) {side : Option Side}
    (hc : c.Contiguous side) (suffix : String) : (c.append suffix).Contiguous side := by
  intro m hm
  have touches := hc m hm
  match side, touches with
  | some .behind, ⟨le, before, hbefore⟩ =>
    exact ⟨le, before, (h.behind_append suffix).trans hbefore⟩
  | some .ahead, ⟨after, hafter⟩ =>
    refine ⟨after ++ suffix, ?_⟩
    rw [h.rest_append, hafter, String.append_assoc]

theorem matched_unscan (c : Cursor) : c.unscan.after.matched = none := by
  cases hm : c.matched with
  | none =>
    rw [unscan, hm]
    exact hm
  | some m =>
    rw [unscan, hm]

/-- Whether the action replaces the cursor by one of which nothing is known. -/
def Action.isRestore : Action → Bool
  | .restore _ => true
  | _ => false

/-- Every action but a restoration keeps what is remembered at the cursor. -/
theorem WF.contiguous_perform {c : Cursor} (h : c.WF) {side : Option Side}
    (hc : c.Contiguous side) {a : Action} (ha : a.isRestore = false) :
    (c.perform a).after.Contiguous (c.sideAfter side a) := by
  cases a with
  | attempt pattern options => exact h.contiguous_attempt hc pattern options
  | search op pattern => exact h.contiguous_attempt hc pattern (optionsOf op)
  | getch => exact h.contiguous_getch hc
  | unscan => exact contiguous_of_none (matched_unscan c) _
  | append suffix => exact h.contiguous_append hc suffix
  | reload =>
    rw [h.perform_reload]
    exact hc
  | restore s => cases ha
  | _ =>
    rw [(perform_of_isQuery rfl c).1]
    exact hc

/-- An action that fails leaves all as it was. -/
theorem perform_of_error {c : Cursor} {a : Action} {e : ScanError}
    (h : (c.perform a).result = .error e) : (c.perform a).after = c := by
  have of_attempt (pattern : String) (options : MatchOptions)
      (h : ((c.attempt pattern options).map Answer.matched).result = .error e) :
      (c.attempt pattern options).after = c := by
    rcases attempt_cases c pattern options with ⟨_, _, _, same⟩ | ⟨p, m, _, _, ok, _, _⟩
    · exact same
    · rw [Effect.result_map_of_ok ok Answer.matched] at h
      cases h
  have of_replaceBy (made : Except ScanError Cursor) (h : (c.replaceBy made).result = .error e) :
      (c.replaceBy made).after = c := by
    cases made with
    | error e => rfl
    | ok c' => cases h
  cases a with
  | attempt pattern options => exact of_attempt pattern options h
  | search op pattern => exact of_attempt pattern (optionsOf op) h
  | getch =>
    rcases getch_cases c with ⟨_, failed⟩ | ⟨ch, _, _, _, ok, _, _⟩
    · show c.getch.after = c
      rw [failed, Effect.after_fail]
    · have answered : (c.perform .getch).result = .ok (.char ch) :=
        Effect.result_map_of_ok ok Answer.char
      rw [answered] at h
      cases h
  | unscan =>
    cases hm : c.matched with
    | none =>
      show c.unscan.after = c
      rw [unscan, hm]
    | some m => simp [perform, unscan, hm, Except.map] at h
  | append suffix => cases h
  | reload => exact of_replaceBy _ h
  | restore s => exact of_replaceBy _ h
  | _ => exact (perform_of_isQuery rfl c).1

/-! ## Runs -/

theorem lastSide_append (c : Cursor) (side : Option Side) (as : List Action) (a : Action) :
    c.lastSide side (as ++ [a]) = (c.runAll as).sideAfter (c.lastSide side as) a := by
  induction as generalizing c side with
  | nil => rfl
  | cons b as ih => exact ih (c.perform b).after (c.sideAfter side b)

theorem WF.contiguous_runAll {c : Cursor} (h : c.WF) {side : Option Side}
    (hc : c.Contiguous side) {as : List Action} (has : ∀ a ∈ as, a.isRestore = false) :
    (c.runAll as).Contiguous (c.lastSide side as) := by
  induction as generalizing c side with
  | nil => exact hc
  | cons a as ih =>
    rw [runAll_cons, lastSide]
    have first := h.contiguous_perform hc (has a List.mem_cons_self)
    exact ih (h.perform a) first fun b hb => has b (List.mem_cons_of_mem a hb)

/-- The cursors that start on a text of their own. -/
inductive Fresh : Cursor → Prop
  | new (text : String) : Fresh (new text)
  | newAt {text : String} {position : Nat} {c : Cursor} : newAt text position = .ok c → Fresh c

theorem Fresh.made {c : Cursor} (h : c.Fresh) : c.Made := by
  cases h with
  | new text => exact .new text
  | newAt h => exact .newAt h

theorem Fresh.matched_eq {c : Cursor} (h : c.Fresh) : c.matched = none := by
  cases h with
  | new text => rfl
  | @newAt text position _ h =>
    rw [newAt_eq] at h
    split at h
    · cases h
      rfl
    · cases h

/-- **What is remembered lies at the cursor.** After any run from a new cursor in which nothing
foreign is restored, what is remembered ends the text behind if the latest action to remember
something moved over it, and begins the text ahead if that action only looked. Matches that fail and
steps back leave nothing remembered; actions that fail change neither the cursor nor the side. -/
theorem Fresh.register_contiguous {c : Cursor} (h : c.Fresh) {as : List Action}
    (has : ∀ a ∈ as, a.isRestore = false) :
    (c.runAll as).Contiguous (c.lastSide none as) ∧
    (∀ (pattern : String) (options : MatchOptions) (p : Pattern),
      Pattern.compile pattern = .ok p → p.matched? options.anchored (c.runAll as).rest = none →
      ((c.runAll as).attempt pattern options).after.matched = none) ∧
    (c.runAll as).unscan.after.matched = none ∧
    ∀ (a : Action) (e : ScanError), ((c.runAll as).perform a).result = .error e →
      ((c.runAll as).perform a).after = c.runAll as ∧
        c.lastSide none (as ++ [a]) = c.lastSide none as := by
  have contiguous : c.Contiguous none := contiguous_of_none h.matched_eq none
  refine ⟨h.made.wf.contiguous_runAll contiguous has, ?_, matched_unscan _, ?_⟩
  · intro pattern options p compiled hm
    have valid := ((Reachable.made h.made).runAll as).valid
    rw [(valid.attempt_of_compile compiled options).2.1, hm]
  · intro a e failed
    refine ⟨perform_of_error failed, ?_⟩
    rw [lastSide_append, sideAfter, remembers, failed]
    simp [Except.isOk, Except.toBool]

/-- A match that is only looked at, and then one that is moved over, with failures, an addition to
the text and a reload between them. -/
theorem register_contiguous_mixed :
    let c := new "néa"
    let looked : List Action :=
      [.getch, .search .checkUntil "a", .append "b", .reload, .search .scan "("]
    let moved := looked ++ [.search .scanUntil "a", .append "!", .peek 1]
    c.Fresh ∧ (∀ a ∈ moved, a.isRestore = false) ∧
    c.lastSide none looked = some .ahead ∧ (c.runAll looked).matched = some "éa" ∧
    (∃ after, (c.runAll looked).rest = "éa" ++ after) ∧
    c.lastSide none moved = some .behind ∧ (c.runAll moved).matched = some "éa" ∧
    "éa".length ≤ (c.runAll moved).position ∧
    ∃ before, (c.runAll moved).behind = before ++ "éa" := by
  intro c looked moved
  have fresh : c.Fresh := .new "néa"
  have noRestore : ∀ a ∈ looked, a.isRestore = false := by decide
  have noRestore' : ∀ a ∈ moved, a.isRestore = false := by decide
  have side : c.lastSide none looked = some .ahead := by decide +kernel
  have side' : c.lastSide none moved = some .behind := by decide +kernel
  have register : (c.runAll looked).matched = some "éa" := by decide +kernel
  have register' : (c.runAll moved).matched = some "éa" := by decide +kernel
  obtain ⟨ahead, -⟩ := Fresh.register_contiguous fresh noRestore
  obtain ⟨behind, -⟩ := Fresh.register_contiguous fresh noRestore'
  rw [side] at ahead
  rw [side'] at behind
  exact ⟨fresh, noRestore', side, register, ahead "éa" register, side', register',
    behind "éa" register'⟩

end TextCursor.Cursor
