import TextCursor.Proofs.Cursor.Register

/-!
# Only what lies ahead matters

Matching, taking a character, adding to the text and looking at what is next depend on the rest of
the text alone. `Valid.only_ahead_matters` says so of two cursors with the same rest, whatever lies
behind them: through any run of such actions they give the same answers and errors, have the same
rest and stay as far apart as they were. A cursor is thus as good as a new one on its rest, and to
look ahead changes nothing that such actions answer later.

`Level` relates the two cursors; one step keeps it (`Valid.perform_level`), and so does a run.
-/

namespace TextCursor.Cursor

/-! ## Two cursors at the same rest -/

/-- Whether what the action does depends on the text ahead alone. -/
def Action.looksAhead : Action → Bool
  | .attempt _ _ | .search _ _ | .getch | .append _ | .peek _ | .current => true
  | .unscan | .item _ | .slice _ _ _ | .get _ | .text | .length | .describe | .snapshot | .reload
  | .restore _ => false

/-- Two cursors that have the same ahead of them, of which one has come as far from `p` as the other
has from `q`. -/
structure Level (p q : Nat) (c d : Cursor) : Prop where
  rest_eq : c.rest = d.rest
  atEnd_eq : c.atEnd = d.atEnd
  position_eq : c.position + q = d.position + p

/-- Two results that are the same answer or the same error, but for the position of an end of the
text, which is as far from `p` in one as it is from `q` in the other. -/
inductive SameResult (p q : Nat) : Except ScanError Answer → Except ScanError Answer → Prop
  | ok (answer : Answer) : SameResult p q (.ok answer) (.ok answer)
  | error {e : ScanError} : (∀ n, e ≠ .endOfInput n) → SameResult p q (.error e) (.error e)
  | endOfInput {m n : Nat} : m + q = n + p →
    SameResult p q (.error (.endOfInput m)) (.error (.endOfInput n))

/-- Two outcomes with the same result that leave cursors with the same ahead of them. -/
structure LevelOutcome (p q : Nat) (e e' : Op Answer) : Prop where
  result : SameResult p q e.result e'.result
  after : Level p q e.after e'.after

/-- Positions told from the same place are the same. -/
theorem SameResult.eq {p : Nat} {r r' : Except ScanError Answer} (h : SameResult p p r r') :
    r = r' := by
  cases h with
  | ok answer => rfl
  | error _ => rfl
  | @endOfInput m n same => rw [Nat.add_right_cancel same]

/-- The end of the text shows in the rest. -/
theorem level_of_rest_eq {p q : Nat} {c d : Cursor} (hc : c.WF) (hd : d.WF)
    (rest_eq : c.rest = d.rest) (position_eq : c.position + q = d.position + p) :
    Level p q c d where
  rest_eq := rest_eq
  atEnd_eq := by rw [Bool.eq_iff_iff, hc.atEnd_iff_rest, hd.atEnd_iff_rest, rest_eq]
  position_eq := position_eq

/-- Cursors that move over the same piece of the same rest stay level. -/
theorem Level.movedOver {p q : Nat} {c d c' d' : Cursor} {piece rest : String}
    (h : Level p q c d) (hc : c.WF) (hd : d.WF) (ahead : c.rest = piece ++ rest)
    (moved : c.MovedOver piece c') (moved' : d.MovedOver piece d') : Level p q c' d' := by
  have ahead' : d.rest = piece ++ rest := h.rest_eq ▸ ahead
  refine level_of_rest_eq (moved.wf hc ahead) (moved'.wf hd ahead') ?_ ?_
  · rw [moved.rest_eq hc ahead, moved'.rest_eq hd ahead']
  · have := h.position_eq
    rw [moved.position_eq, moved'.position_eq]
    omega

/-! ## One step -/

theorem getch_of_none {c : Cursor} (h : c.current? = none) :
    c.perform .getch = .fail (.endOfInput c.position) c := by
  rw [perform, getch, h]
  rfl

theorem getch_of_some {c : Cursor} {ch : Char} (h : c.current? = some ch) :
    (c.perform .getch).result = .ok (.char ch) ∧
      (c.perform .getch).after.matched = some (String.singleton ch) ∧
      c.MovedOver (String.singleton ch) (c.perform .getch).after := by
  rcases getch_cases c with ⟨nothing, _⟩ | ⟨ch', _, h', _, ok, register, moved⟩
  · rw [current?, nothing] at h
    cases h
  · rw [h, Option.some.injEq] at h'
    subst h'
    exact ⟨Effect.result_map_of_ok ok Answer.char, register, moved⟩

section Steps

variable {p q : Nat} {c d : Cursor}

/-- What two cursors do level with each other: they give the same result and stay level, and they
remember the same if they did before or if they remember something now. -/
structure Alongside (p q : Nat) (c d : Cursor) (a : Action) : Prop where
  outcome : LevelOutcome p q (c.perform a) (d.perform a)
  matched : c.matched = d.matched ∨ c.remembers a = true →
    (c.perform a).after.matched = (d.perform a).after.matched

theorem Valid.attempt_level (hc : c.Valid) (hd : d.Valid) (h : Level p q c d) (pattern : String)
    (options : MatchOptions) : Alongside p q c d (.attempt pattern options) := by
  cases compiled : Pattern.compile pattern with
  | error cause =>
    obtain ⟨failed, same⟩ := hc.attempt_of_not_compile compiled options
    obtain ⟨failed', same'⟩ := hd.attempt_of_not_compile compiled options
    have failure : (c.perform (.attempt pattern options)).result = .error _ :=
      Effect.result_map_of_error failed Answer.matched
    have failure' : (d.perform (.attempt pattern options)).result = .error _ :=
      Effect.result_map_of_error failed' Answer.matched
    refine ⟨⟨?_, ?_⟩, ?_⟩
    · rw [failure, failure']
      exact .error fun n => ScanError.noConfusion
    · show Level p q (c.attempt pattern options).after (d.attempt pattern options).after
      rw [same, same']
      exact h
    · show _ → (c.attempt pattern options).after.matched = (d.attempt pattern options).after.matched
      rw [same, same', remembers, failure]
      exact fun unchanged => unchanged.resolve_right Bool.false_ne_true
  | ok r =>
    -- both match the same pattern against the same text
    obtain ⟨ok, register, moved⟩ := hc.attempt_of_compile compiled options
    obtain ⟨ok', register', moved'⟩ := hd.attempt_of_compile compiled options
    rw [← h.rest_eq] at ok' register' moved'
    have answered : (c.perform (.attempt pattern options)).result = .ok (.matched _) :=
      Effect.result_map_of_ok ok Answer.matched
    have answered' : (d.perform (.attempt pattern options)).result = .ok (.matched _) :=
      Effect.result_map_of_ok ok' Answer.matched
    obtain ⟨rest, ahead⟩ : ∃ rest,
        c.rest = options.moved (r.matched? options.anchored c.rest) ++ rest := rest_eq_moved rfl
    refine ⟨⟨?_, h.movedOver hc.wf hd.wf ahead moved moved'⟩, fun _ => register.trans register'.symm⟩
    rw [answered, answered']
    exact .ok _

theorem Valid.getch_level (hc : c.Valid) (hd : d.Valid) (h : Level p q c d) :
    Alongside p q c d .getch := by
  have current_eq : d.current? = c.current? := by rw [current?, current?, h.rest_eq]
  cases current : c.current? with
  | none =>
    rw [current] at current_eq
    refine ⟨⟨?_, ?_⟩, ?_⟩
    · rw [getch_of_none current, getch_of_none current_eq]
      exact .endOfInput h.position_eq
    · rw [getch_of_none current, getch_of_none current_eq]
      exact h
    · rw [remembers, getch_of_none current, getch_of_none current_eq]
      exact fun unchanged => unchanged.resolve_right Bool.false_ne_true
  | some ch =>
    rw [current] at current_eq
    obtain ⟨answered, register, moved⟩ := getch_of_some current
    obtain ⟨answered', register', moved'⟩ := getch_of_some current_eq
    obtain ⟨rest, ahead⟩ := current?_eq_some current
    refine ⟨⟨?_, h.movedOver hc.wf hd.wf ahead moved moved'⟩, fun _ => register.trans register'.symm⟩
    rw [answered, answered']
    exact .ok _

theorem Valid.append_level (hc : c.Valid) (hd : d.Valid) (h : Level p q c d) (suffix : String) :
    Alongside p q c d (.append suffix) where
  outcome := by
    have rest_eq : (c.append suffix).rest = (d.append suffix).rest := by
      rw [hc.wf.rest_append, hd.wf.rest_append, h.rest_eq]
    exact ⟨.ok _, level_of_rest_eq (hc.wf.append suffix) (hd.wf.append suffix) rest_eq
      h.position_eq⟩
  matched := fun unchanged => unchanged.resolve_right Bool.false_ne_true

/-- Actions that only answer, and answer the same, leave cursors level. -/
theorem Level.alongside_of_done (h : Level p q c d) {a : Action} {answer : Answer}
    (silent : a.side? = none) (done : c.perform a = .done answer c)
    (done' : d.perform a = .done answer d) : Alongside p q c d a where
  outcome := by
    rw [done, done']
    exact ⟨.ok answer, h⟩
  matched := by
    rw [remembers, silent, done, done']
    exact fun unchanged => unchanged.resolve_right Bool.false_ne_true

/-- Cursors that are level do the same with what lies ahead, and are level afterwards. -/
theorem Valid.perform_level (hc : c.Valid) (hd : d.Valid) (h : Level p q c d) {a : Action}
    (ha : a.looksAhead = true) : Alongside p q c d a := by
  cases a with
  | attempt pattern options => exact hc.attempt_level hd h pattern options
  | search op pattern =>
    have level := hc.attempt_level hd h pattern (optionsOf op)
    exact ⟨level.outcome, level.matched⟩
  | getch => exact hc.getch_level hd h
  | append suffix => exact hc.append_level hd h suffix
  | peek n =>
    refine h.alongside_of_done rfl rfl ?_
    rw [Cursor.perform, peek, ← h.rest_eq]
    rfl
  | current =>
    refine h.alongside_of_done rfl rfl ?_
    rw [Cursor.perform, current?, ← h.rest_eq]
    rfl
  | _ => cases ha

end Steps

/-! ## Runs -/

/-- Whether some action of a run writes what is remembered. -/
def remembersIn (c : Cursor) : List Action → Bool
  | [] => false
  | a :: as => c.remembers a || (c.perform a).after.remembersIn as

theorem Valid.performAll_level {p q : Nat} {c d : Cursor} (hc : c.Valid) (hd : d.Valid)
    (h : Level p q c d) {as : List Action} (has : ∀ a ∈ as, a.looksAhead = true) :
    List.Forall₂ (LevelOutcome p q) (c.performAll as) (d.performAll as) := by
  induction as generalizing c d with
  | nil => exact .nil
  | cons a as ih =>
    have first := hc.perform_level hd h (has a List.mem_cons_self)
    exact .cons first.outcome (ih (hc.perform a) (hd.perform a) first.outcome.after
      fun b hb => has b (List.mem_cons_of_mem a hb))

/-- What the cursors remember is the same from the first action on that writes it. -/
theorem Valid.matched_runAll {p q : Nat} {c d : Cursor} (hc : c.Valid) (hd : d.Valid)
    (h : Level p q c d) {as : List Action} (has : ∀ a ∈ as, a.looksAhead = true)
    (same : c.matched = d.matched ∨ c.remembersIn as = true) :
    (c.runAll as).matched = (d.runAll as).matched := by
  induction as generalizing c d with
  | nil => exact same.resolve_right Bool.false_ne_true
  | cons a as ih =>
    have first := hc.perform_level hd h (has a List.mem_cons_self)
    rw [runAll_cons, runAll_cons]
    refine ih (hc.perform a) (hd.perform a) first.outcome.after
      (fun b hb => has b (List.mem_cons_of_mem a hb)) ?_
    rw [remembersIn, Bool.or_eq_true, ← or_assoc] at same
    exact same.imp first.matched id

theorem performAll_append (c : Cursor) (as bs : List Action) :
    c.performAll (as ++ bs) = c.performAll as ++ (c.runAll as).performAll bs := by
  induction as generalizing c with
  | nil => rfl
  | cons a as ih => exact congrArg _ (ih (c.perform a).after)

theorem length_performAll (c : Cursor) (as : List Action) : (c.performAll as).length = as.length := by
  induction as generalizing c with
  | nil => rfl
  | cons a as ih => exact congrArg _ (ih (c.perform a).after)

/-- To look ahead leaves a cursor level with itself. -/
theorem Valid.level_look {c : Cursor} (h : c.Valid) {options : MatchOptions}
    (stays : options.advance = false) (pattern : String) :
    Level 0 0 (c.attempt pattern options).after c := by
  rcases attempt_cases c pattern options with ⟨_, _, _, same⟩ | ⟨_, m, _, _, _, _, moved⟩
  · rw [same]
    exact ⟨rfl, rfl, rfl⟩
  · rw [MatchOptions.moved_of_stays stays] at moved
    have nothing : c.rest = "" ++ c.rest := String.empty_append.symm
    exact level_of_rest_eq (moved.wf h.wf nothing) h.wf (moved.rest_eq h.wf nothing)
      moved.position_eq

/-- **Only what lies ahead matters.** Two cursors with the same rest give the same answers and errors
in any run of actions that look ahead, have the same rest at each point of it and keep their distance;
they remember the same once something has been written. So a cursor does as a new one on its rest
does, and to check for a pattern at any point of a run does not change what such actions give after
it. -/
theorem Valid.only_ahead_matters {c d : Cursor} (hc : c.Valid) (hd : d.Valid)
    (same : c.rest = d.rest) {as : List Action} (has : ∀ a ∈ as, a.looksAhead = true) :
    c.atEnd = d.atEnd ∧
    List.Forall₂ (LevelOutcome c.position d.position) (c.performAll as) (d.performAll as) ∧
    (c.remembersIn as = true → (c.runAll as).matched = (d.runAll as).matched) ∧
    List.Forall₂ (LevelOutcome c.position 0) (c.performAll as) ((new c.rest).performAll as) ∧
    ∀ (before : List Action) (op : MatchOp) (pattern : String),
      op = .check ∨ op = .checkUntil →
      ((c.performAll (before ++ .search op pattern :: as)).map Effect.result).eraseIdx before.length =
        (c.performAll (before ++ as)).map Effect.result := by
  have level := level_of_rest_eq (p := c.position) hc.wf hd.wf same (Nat.add_comm _ _)
  refine ⟨level.atEnd_eq, hc.performAll_level hd level has, ?_, ?_, ?_⟩
  · intro written
    exact hc.matched_runAll hd level has (.inr written)
  · have whole : (new c.rest).rest = c.rest := String.toList_inj.1 (wf_new c.rest).toList_rest
    have start := level_of_rest_eq (p := c.position) (q := 0) hc.wf (wf_new c.rest) whole.symm
      (Nat.add_comm _ _)
    exact hc.performAll_level (valid_new c.rest) start has
  · intro before op pattern hop
    have stays : (optionsOf op).advance = false := by rcases hop with rfl | rfl <;> rfl
    have here := hc.runAll before
    have alike := (here.perform (.search op pattern)).performAll_level here
      (here.level_look stays pattern) has
    have results := map_eq_map_iff_forall₂.2 (alike.imp fun _ _ outcome => outcome.result.eq)
    have skipped : ((c.performAll before).map Effect.result).length = before.length := by
      rw [List.length_map, length_performAll]
    rw [performAll_append, performAll_append, List.map_append, List.map_append, ← skipped,
      List.eraseIdx_append_of_length_le (Nat.le_refl _), Nat.sub_self]
    exact congrArg _ results

/-- A cursor with a word character behind it and a foreign match, and one without: where a text or a
word starts is told by the rest alone, and only the positions of their ends differ. -/
theorem only_ahead_matters_at_blank :
    let c := (new "né b").runAll [.restore ⟨"né b", 2, some "zzz"⟩, .search .check "("]
    let d := new " b"
    let as : List Action := [.search .check "\\b", .search .scan "^ ", .append "!",
      .search .scanUntil "\\bb", .getch, .getch]
    c.Valid ∧ c.rest = d.rest ∧ c.position = 2 ∧ c.matched = some "zzz" ∧
    (∀ a ∈ as, a.looksAhead = true) ∧
    List.Forall₂ (LevelOutcome c.position 0) (c.performAll as) (d.performAll as) ∧
    (c.runAll as).matched = (d.runAll as).matched ∧
    (c.performAll as).getLast?.map Effect.result = some (.error (.endOfInput 5)) ∧
    (d.performAll as).getLast?.map Effect.result = some (.error (.endOfInput 3)) ∧
    ((c.performAll (.search .check "b" :: as)).map Effect.result).eraseIdx 0 =
      (c.performAll as).map Effect.result := by
  intro c d as
  have valid : c.Valid := (valid_new "né b").runAll _
  have same : c.rest = d.rest := by decide +kernel
  have looking : ∀ a ∈ as, a.looksAhead = true := by decide
  obtain ⟨-, level, register, -, checks⟩ :=
    Valid.only_ahead_matters valid (valid_new " b") same looking
  exact ⟨valid, same, by decide +kernel, by decide +kernel, looking, level,
    register (by decide +kernel), by decide +kernel, by decide +kernel,
    checks [] .check "b" (.inl rfl)⟩

end TextCursor.Cursor
