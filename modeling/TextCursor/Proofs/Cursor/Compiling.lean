import TextCursor.Proofs.Cursor.Invariant
import TextCursor.Proofs.Pattern.Cache
import TextCursor.Session

/-!
# Compiled patterns do not show

A cursor that keeps the patterns it has compiled answers as one that forgets them before each step.
`Made.cache_unobservable` says so for whole runs, and says what is kept and what is reported: at
each point of a run the cursor in place holds exactly the patterns that it has used, and it reports
that it compiles one when it uses it first, and each text that is none whenever it uses it.

The history of a cursor starts anew where another takes its place, so the statements are about
records that do so too (`sinceMade`).
-/

namespace TextCursor

/-- Whether the event reports that a pattern is compiled. -/
def Event.isCompiling : Event → Bool
  | .compiling _ => true
  | _ => false

namespace Cursor

open Pattern (compiles)
open Pattern.Cache (compilingAfter)

/-! ## Forgetting -/

/-- The cursor without the patterns that it has compiled. -/
def forget (c : Cursor) : Cursor :=
  { c with patterns := .empty }

/-- What can be seen of an outcome: the result or error, the cursor after it without its compiled
patterns, and the events other than those of compiling. -/
structure Seen where
  result : Except ScanError Answer
  after : Cursor
  log : List Event

/-- What can be seen of an outcome. -/
def seen (e : Op Answer) : Seen :=
  ⟨e.result, e.after.forget, e.log.filter fun event => !event.isCompiling⟩

/-- Performs actions one after another, and forgets all compiled patterns before each. -/
def performAllForgetting (c : Cursor) : List Action → List (Op Answer)
  | [] => []
  | a :: as =>
    let e := c.forget.perform a
    e :: e.after.performAllForgetting as

/-! ## History -/

/-- The pattern that the action uses. -/
def Action.pattern? : Action → Option String
  | .attempt pattern _ | .search _ pattern => some pattern
  | _ => none

/-- Whether the action puts another cursor in the place of this one. -/
def isReplacedBy (c : Cursor) : Action → Bool
  | .reload => (restore c.snapshot).isOk
  | .restore s => (restore s).isOk
  | _ => false

/-- A record of a run that starts anew with each new cursor: what each action on the cursor now in
place has added to it. -/
def sinceMade {β : Type} (entry : Cursor → Action → List β) (c : Cursor) (record : List β) :
    List Action → List β
  | [] => record
  | a :: as =>
    (c.perform a).after.sinceMade entry
      (if c.isReplacedBy a then [] else record ++ entry c a) as

/-- The patterns that the cursor now in place has used, each as often as it has. -/
def patternsUsed (c : Cursor) (as : List Action) : List String :=
  c.sinceMade (fun _ a => a.pattern?.toList) [] as

/-- The events that the cursor now in place has reported. -/
def reported (c : Cursor) (as : List Action) : List Event :=
  c.sinceMade (fun c a => (c.perform a).log) [] as

/-! ## One step -/

theorem isCompiling_matchEvent (c : Cursor) (pattern : String) (m : Option String) :
    (c.matchEvent pattern m).isCompiling = false := by
  cases m with
  | none => rfl
  | some m => rfl

theorem filter_compilingAfter (used : List String) (pattern : String) :
    (compilingAfter used pattern).filter Event.isCompiling = compilingAfter used pattern ∧
      (compilingAfter used pattern).filter (fun event => !event.isCompiling) = [] := by
  rw [compilingAfter]
  split
  · exact ⟨rfl, rfl⟩
  · exact ⟨rfl, rfl⟩

/-- An attempt to match under a cache that holds what has been used. What it answers and where it
leads depend on the pattern and the text alone. -/
theorem attempt_of_holds {c : Cursor} {used : List String} (h : c.patterns.Holds used)
    (pattern : String) (options : MatchOptions) :
    ∃ cache : Pattern.Cache, cache.Holds (used ++ [pattern]) ∧
      c.attempt pattern options =
        match Pattern.compile pattern with
        | .error cause =>
          ⟨.error (.invalidPattern pattern cause), { c with patterns := cache },
            compilingAfter used pattern⟩
        | .ok p =>
          let m := p.matched? options.anchored c.rest
          let found : Cursor := { c with matched := m, patterns := cache }
          ⟨.ok (.ofMatched options.wanted m),
            if options.advance then found.moveBehind m else found,
            compilingAfter used pattern ++ [c.matchEvent pattern m]⟩ := by
  cases compiled : Pattern.compile pattern with
  | error cause =>
    obtain ⟨got, holds⟩ := h.get_of_error compiled
    exact ⟨c.patterns, holds, attempt_of_error got options⟩
  | ok p =>
    obtain ⟨cache, got, holds⟩ := h.get_of_ok compiled
    exact ⟨cache, holds, attempt_of_ok got options⟩

theorem patterns_moveBehind (c : Cursor) (m : Option String) :
    (c.moveBehind m).patterns = c.patterns := by
  cases m with
  | none => rfl
  | some m => rfl

theorem forget_moveBehind (c : Cursor) (m : Option String) :
    (c.moveBehind m).forget = c.forget.moveBehind m := by
  cases m with
  | none => rfl
  | some m => rfl

theorem holds_attempt {c : Cursor} {used : List String} (h : c.patterns.Holds used)
    (pattern : String) (options : MatchOptions) :
    (c.attempt pattern options).after.patterns.Holds (used ++ [pattern]) := by
  obtain ⟨cache, holds, same⟩ := attempt_of_holds h pattern options
  rw [same]
  cases Pattern.compile pattern with
  | error cause => exact holds
  | ok p =>
    show (if options.advance then _ else _ : Cursor).patterns.Holds _
    split
    · rw [patterns_moveBehind]
      exact holds
    · exact holds

theorem compiling_attempt {c : Cursor} {used : List String} (h : c.patterns.Holds used)
    (pattern : String) (options : MatchOptions) :
    (c.attempt pattern options).log.filter Event.isCompiling = compilingAfter used pattern := by
  obtain ⟨cache, _, same⟩ := attempt_of_holds h pattern options
  rw [same]
  cases Pattern.compile pattern with
  | error cause => exact (filter_compilingAfter used pattern).1
  | ok p =>
    show (compilingAfter used pattern ++ [_]).filter _ = _
    rw [List.filter_append, (filter_compilingAfter used pattern).1, List.filter_cons,
      isCompiling_matchEvent]
    exact List.append_nil _

/-- Two cursors that differ in their compiled patterns alone match alike. -/
theorem seen_attempt {c : Cursor} {used : List String} (h : c.patterns.Holds used)
    (pattern : String) (options : MatchOptions) :
    seen ((c.attempt pattern options).map .matched) =
      seen ((c.forget.attempt pattern options).map .matched) := by
  obtain ⟨cache, _, same⟩ := attempt_of_holds h pattern options
  obtain ⟨cache', _, same'⟩ := attempt_of_holds (c := c.forget) Pattern.Cache.holds_empty
    pattern options
  rw [same, same']
  cases Pattern.compile pattern with
  | error cause =>
    simp only [seen, Effect.map, filter_compilingAfter]
    rfl
  | ok p =>
    cases options.advance with
    | false =>
      simp only [seen, Effect.map, List.filter_append, filter_compilingAfter]
      rfl
    | true =>
      simp only [seen, Effect.map, List.filter_append, filter_compilingAfter, if_true,
        forget_moveBehind]
      rfl

/-! ### Kinds of actions -/

/-- An action that uses a pattern is an attempt to match it. -/
theorem perform_of_pattern? {a : Action} {pattern : String} (h : a.pattern? = some pattern) :
    ∃ options, ∀ c : Cursor, c.perform a = (c.attempt pattern options).map .matched := by
  cases a with
  | attempt source options =>
    cases h
    exact ⟨options, fun _ => rfl⟩
  | search op source =>
    cases h
    exact ⟨optionsOf op, fun _ => rfl⟩
  | _ => cases h

theorem patterns_of_restore {s : Snapshot} {c : Cursor} (h : restore s = .ok c) :
    c.patterns = .empty := by
  rw [restore_eq] at h
  split at h
  · cases h
    rfl
  · cases h

theorem patterns_replaceBy (c : Cursor) (s : Snapshot) :
    (c.replaceBy (restore s)).after.patterns =
      if (restore s).isOk then .empty else c.patterns := by
  cases made : restore s with
  | error e => rfl
  | ok c' => exact patterns_of_restore made

theorem patterns_unscan (c : Cursor) : c.unscan.after.patterns = c.patterns := by
  rw [unscan]
  split <;> rfl

theorem patterns_getch (c : Cursor) : c.getch.after.patterns = c.patterns := by
  rw [getch]
  split <;> rfl

/-- An action that uses no pattern keeps those compiled so far, unless another cursor takes the
place of this one; that one starts without. -/
theorem patterns_perform {a : Action} (h : a.pattern? = none) (c : Cursor) :
    (c.perform a).after.patterns = if c.isReplacedBy a then .empty else c.patterns := by
  cases a with
  | attempt | search => cases h
  | unscan => exact patterns_unscan c
  | getch => exact patterns_getch c
  | append suffix => rfl
  | reload => exact patterns_replaceBy c c.snapshot
  | restore s => exact patterns_replaceBy c s
  | _ =>
    rw [(perform_of_isQuery rfl c).1]
    rfl

theorem isReplacedBy_of_pattern? {a : Action} {pattern : String} (h : a.pattern? = some pattern)
    (c : Cursor) : c.isReplacedBy a = false := by
  cases a with
  | attempt | search => rfl
  | _ => cases h

theorem log_replaceBy (c : Cursor) (made : Except ScanError Cursor) :
    (c.replaceBy made).log = [] := by
  cases made with
  | error e => rfl
  | ok c' => rfl

/-- An action that uses no pattern compiles none. -/
theorem compiling_of_pattern?_eq_none {a : Action} (h : a.pattern? = none) (c : Cursor) :
    (c.perform a).log.filter Event.isCompiling = [] := by
  cases a with
  | attempt | search => cases h
  | unscan =>
    show c.unscan.log.filter _ = []
    rw [unscan]
    split <;> rfl
  | getch =>
    show c.getch.log.filter _ = []
    rw [getch]
    split <;> rfl
  | append suffix => rfl
  | reload => exact congrArg _ (log_replaceBy c _)
  | restore s => exact congrArg _ (log_replaceBy c _)
  | _ =>
    rw [(perform_of_isQuery rfl c).2]
    rfl

/-! ### What a step keeps, reports and shows -/

/-- After each action the cursor in place holds the patterns that it has used. -/
theorem holds_perform {c : Cursor} {used : List String} (h : c.patterns.Holds used) (a : Action) :
    (c.perform a).after.patterns.Holds
      (if c.isReplacedBy a then [] else used ++ a.pattern?.toList) := by
  cases uses : a.pattern? with
  | some pattern =>
    obtain ⟨options, same⟩ := perform_of_pattern? uses
    rw [isReplacedBy_of_pattern? uses, same]
    exact holds_attempt h pattern options
  | none =>
    rw [patterns_perform uses, Option.toList_none, List.append_nil]
    split
    · exact Pattern.Cache.holds_empty
    · exact h

/-- An action reports that it compiles exactly where it uses a text that is no pattern or has not
been used before. -/
theorem compiling_perform {c : Cursor} {used : List String} (h : c.patterns.Holds used)
    (a : Action) :
    (c.perform a).log.filter Event.isCompiling =
      a.pattern?.toList.flatMap (compilingAfter used) := by
  cases uses : a.pattern? with
  | some pattern =>
    obtain ⟨options, same⟩ := perform_of_pattern? uses
    rw [same, Option.toList_some, List.flatMap_singleton]
    exact compiling_attempt h pattern options
  | none => exact compiling_of_pattern?_eq_none uses c

theorem seen_replaceBy (c : Cursor) (made : Except ScanError Cursor) :
    seen (c.replaceBy made) = seen (c.forget.replaceBy made) := by
  cases made with
  | error e => rfl
  | ok c' => rfl

/-- What can be seen of an action does not depend on the compiled patterns. -/
theorem seen_perform {c : Cursor} {used : List String} (h : c.patterns.Holds used) (a : Action) :
    seen (c.perform a) = seen (c.forget.perform a) := by
  cases a with
  | attempt pattern options => exact seen_attempt h pattern options
  | search op pattern => exact seen_attempt h pattern (optionsOf op)
  | unscan =>
    show seen (c.unscan.map _) = seen (c.forget.unscan.map _)
    have same : c.forget.matched = c.matched := rfl
    cases hm : c.matched with
    | none => simp only [unscan, same, hm]; rfl
    | some m => simp only [unscan, same, hm]; rfl
  | getch =>
    show seen (c.getch.map _) = seen (c.forget.getch.map _)
    have same : c.forget.current? = c.current? := rfl
    cases hc : c.current? with
    | none => simp only [getch, same, hc]; rfl
    | some ch => simp only [getch, same, hc]; rfl
  | reload => exact seen_replaceBy c (restore c.snapshot)
  | restore s => exact seen_replaceBy c (restore s)
  | get key =>
    rw [perform, perform]
    cases Key.ofText? key with
    | none => rfl
    | some k => rfl
  | _ => rfl

/-! ## Runs -/

/-- Cursors that differ in their compiled patterns alone show the same in a run, whether these are
forgotten on the way or not. -/
theorem seen_performAll {c d : Cursor} {used used' : List String} (hc : c.patterns.Holds used)
    (hd : d.patterns.Holds used') (same : c.forget = d.forget) (as : List Action) :
    (c.performAll as).map seen = (d.performAllForgetting as).map seen := by
  -- the two cursors need not hold the same patterns: each only holds what it has used itself
  induction as generalizing c d used used' with
  | nil => rfl
  | cons a as ih =>
    have first : seen (c.perform a) = seen (d.forget.perform a) := by
      rw [seen_perform hc, same]
    have empty : d.forget.patterns.Holds [] := Pattern.Cache.holds_empty
    show seen (c.perform a) :: ((c.perform a).after.performAll as).map seen =
      seen (d.forget.perform a) :: ((d.forget.perform a).after.performAllForgetting as).map seen
    rw [first, ih (holds_perform hc a) (holds_perform empty a) (congrArg Seen.after first)]

/-- At the end of a run the cursor in place holds the patterns that it has used. -/
theorem holds_runAll {c : Cursor} {used : List String} (h : c.patterns.Holds used)
    (as : List Action) :
    (c.runAll as).patterns.Holds (c.sinceMade (fun _ a => a.pattern?.toList) used as) := by
  induction as generalizing c used with
  | nil => exact h
  | cons a as ih =>
    rw [runAll_cons, sinceMade]
    exact ih (holds_perform h a)

/-- How often a text should have been reported as compiled where it has been used so often: a
pattern once, and any other text each time. -/
def expectedCount (pattern : String) (uses : Nat) : Nat :=
  if compiles pattern then min 1 uses else uses

theorem expectedCount_zero (pattern : String) : expectedCount pattern 0 = 0 := by
  rw [expectedCount, Nat.min_zero, ite_self]

theorem count_compilingAfter (used : List String) (pattern source : String) :
    expectedCount pattern (used.count pattern) +
        (compilingAfter used source).count (.compiling pattern) =
      expectedCount pattern ((used ++ [source]).count pattern) := by
  rw [List.count_append, List.count_singleton, compilingAfter, expectedCount, expectedCount]
  by_cases other : source = pattern
  · -- one more use counts unless it is of a pattern that has been used before
    subst other
    rw [if_pos (beq_self_eq_true source)]
    cases compiles source with
    | false => simp
    | true =>
      by_cases mem : source ∈ used
      · have := List.count_pos_iff.2 mem
        simp only [mem, and_self, if_true, List.count_nil]
        omega
      · have := List.count_eq_zero.2 mem
        simp [mem, this]
  · have unequal : (source == pattern) = false := by simpa using other
    have silent : (if source ∈ used ∧ compiles source = true then []
        else [Event.compiling source]).count (.compiling pattern) = 0 := by
      split
      · rfl
      · simp [other]
    rw [unequal, silent]
    rfl

/-- What is reported of a text follows from how often it has been used. -/
theorem count_compiling_runAll {c : Cursor} {used : List String} {log : List Event}
    (h : c.patterns.Holds used) (pattern : String)
    (hlog : log.count (.compiling pattern) = expectedCount pattern (used.count pattern))
    (as : List Action) :
    (c.sinceMade (fun c a => (c.perform a).log) log as).count (.compiling pattern) =
      expectedCount pattern
        ((c.sinceMade (fun _ a => a.pattern?.toList) used as).count pattern) := by
  induction as generalizing c used log with
  | nil => exact hlog
  | cons a as ih =>
    rw [sinceMade, sinceMade]
    refine ih (holds_perform h a) ?_
    cases c.isReplacedBy a with
    | true =>
      -- the new cursor has used nothing and reported nothing
      exact (expectedCount_zero pattern).symm
    | false =>
      show (log ++ (c.perform a).log).count _ = expectedCount pattern ((used ++ _).count pattern)
      have only : (c.perform a).log.count (.compiling pattern) =
          (a.pattern?.toList.flatMap (compilingAfter used)).count (.compiling pattern) := by
        rw [← compiling_perform h a, List.count_filter rfl]
      rw [List.count_append, hlog, only]
      cases a.pattern? with
      | none => simp
      | some source =>
        rw [Option.toList_some, List.flatMap_singleton]
        exact count_compilingAfter used pattern source

/-! ## Constructors -/

theorem Made.patterns_eq {c : Cursor} (h : c.Made) : c.patterns = .empty := by
  cases h with
  | new text => rfl
  | @newAt text position _ h =>
    rw [newAt_eq] at h
    split at h
    · cases h
      rfl
    · cases h
  | restore h => exact patterns_of_restore h

theorem Made.holds {c : Cursor} (h : c.Made) : c.patterns.Holds [] := by
  rw [h.patterns_eq]
  exact Pattern.Cache.holds_empty

/-- A session starts with a new cursor where it is told to, and else keeps what is compiled. -/
theorem find?_reply {c : Cursor} {used : List String} (h : c.patterns.Holds used)
    (command : Command) :
    (∃ text, command = .new text ∧ (Session.reply c command).after = new text) ∨
      ∀ key p, c.patterns.find? key = some p →
        (Session.reply c command).after.patterns.find? key = some p := by
  cases command with
  | new text => exact .inl ⟨text, rfl, rfl⟩
  | search op pattern =>
    refine .inr fun key p found => ?_
    exact h.find?_mono (holds_attempt h pattern (optionsOf op))
      (fun key mem => List.mem_append_left _ mem) found
  | unscan =>
    refine .inr fun key p found => ?_
    show c.unscan.after.patterns.find? key = some p
    rw [patterns_unscan, found]
  | getch =>
    refine .inr fun key p found => ?_
    show c.getch.after.patterns.find? key = some p
    rw [patterns_getch, found]
  | _ => exact .inr fun key p found => found

/-- **Compiled patterns do not show, and each is compiled once.** Along any run, forgetting them
before each step changes nothing that can be seen. What the cursor in place holds is each pattern
that it has used, once and as it compiles; it reports compiling at the first use of a pattern and at
every use of a text that is none; and it loses them only where another cursor takes its place. -/
theorem Made.cache_unobservable {c : Cursor} (h : c.Made) (as : List Action) :
    (c.performAll as).map seen = (c.performAllForgetting as).map seen ∧
    ((c.runAll as).patterns.entries.map Prod.fst).Nodup ∧
    (∀ key p, (c.runAll as).patterns.find? key = some p ↔
      key ∈ c.patternsUsed as ∧ Pattern.compile key = .ok p) ∧
    (∀ a, ((c.runAll as).perform a).log.filter Event.isCompiling =
      match a.pattern? with
      | none => []
      | some pattern =>
        if pattern ∈ c.patternsUsed as ∧ compiles pattern = true then []
        else [.compiling pattern]) ∧
    (∀ pattern, (c.reported as).count (.compiling pattern) =
      if compiles pattern then min 1 ((c.patternsUsed as).count pattern)
      else (c.patternsUsed as).count pattern) ∧
    (∀ a, if (c.runAll as).isReplacedBy a then
        ((c.runAll as).perform a).after.patterns = .empty
      else ∀ key p, (c.runAll as).patterns.find? key = some p →
        ((c.runAll as).perform a).after.patterns.find? key = some p) ∧
    ∀ command,
      (∃ text, command = .new text ∧
        (Session.reply (c.runAll as) command).after = Cursor.new text) ∨
      ∀ key p, (c.runAll as).patterns.find? key = some p →
        (Session.reply (c.runAll as) command).after.patterns.find? key = some p := by
  have holds : (c.runAll as).patterns.Holds (c.patternsUsed as) := holds_runAll h.holds as
  refine ⟨seen_performAll h.holds h.holds rfl as, holds.nodup, holds.find?_iff, ?_, ?_, ?_,
    find?_reply holds⟩
  · intro a
    rw [compiling_perform holds a]
    cases a.pattern? with
    | none => rfl
    | some pattern => exact List.append_nil _
  · intro pattern
    have nothing : ([] : List Event).count (.compiling pattern) = expectedCount pattern 0 :=
      (expectedCount_zero pattern).symm
    exact count_compiling_runAll h.holds pattern nothing as
  · intro a
    have after := holds_perform holds a
    cases replaced : (c.runAll as).isReplacedBy a with
    | true =>
      cases uses : a.pattern? with
      | some pattern =>
        -- no action both uses a pattern and replaces the cursor
        rw [isReplacedBy_of_pattern? uses] at replaced
        cases replaced
      | none =>
        rw [patterns_perform uses, replaced]
        rfl
    | false =>
      rw [replaced] at after
      show ∀ key p, _ → _
      intro key p found
      exact holds.find?_mono after (fun key mem => List.mem_append_left _ mem) found

/-- A pattern that is used twice and a text that is none, before and after a new start. -/
theorem cache_unobservable_retried :
    let c := new "aab"
    let as : List Action := [.search .scan "a", .search .check "(", .search .checkUntil "a",
      .search .check "("]
    c.Made ∧ (c.performAll as).map seen = (c.performAllForgetting as).map seen ∧
    (c.reported as).count (.compiling "a") = 1 ∧ (c.reported as).count (.compiling "(") = 2 ∧
    (c.reported (as ++ [.reload])).count (.compiling "a") = 0 := by
  intro c as
  have made : c.Made := .new "aab"
  obtain ⟨same, _, _, _, counts, _⟩ := Made.cache_unobservable made as
  obtain ⟨_, _, _, _, anew, _⟩ := Made.cache_unobservable made (as ++ [.reload])
  refine ⟨made, same, ?_, ?_, ?_⟩
  · rw [counts "a"]
    decide +kernel
  · rw [counts "("]
    decide +kernel
  · rw [anew "a"]
    decide +kernel

end Cursor

end TextCursor
