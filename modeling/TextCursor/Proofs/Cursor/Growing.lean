import TextCursor.Proofs.Cursor.Consumption

/-!
# Growing texts

What is added to the end of a text does not disturb what has been done before it.
`Reachable.append_commutes` says that two additions are as good as one, that a new cursor may be given
its text in two parts, and that a run of steps by one character, forwards or back, can be exchanged with
an addition: the same characters are given and the same cursor is reached.

One step is exchanged with an addition in `WF.perform_append`: a step forwards reads what lies behind the
offset, and a step back walks over what lies before it, so neither comes to what is added.
-/

namespace TextCursor.Cursor

/-- Whether the action moves by one character forwards, or takes a move back. -/
def Action.isStep : Action → Bool
  | .getch | .unscan => true
  | _ => false

/-- The same outcome with an addition to the text of the cursor that is left. -/
def grow (suffix : String) (e : Op Answer) : Op Answer :=
  e.mapState fun c => c.append suffix

theorem append_append (c : Cursor) (a b : String) : (c.append a).append b = c.append (a ++ b) := by
  rw [append, append, append, String.append_assoc]

theorem append_new (a b : String) : (new a).append b = new (a ++ b) := rfl

/-! ## One step -/

/-- The character at a cursor is the same in a text that has grown. -/
theorem WF.current?_append {c : Cursor} (h : c.WF) {ch : Char} (current : c.current? = some ch)
    (suffix : String) : (c.append suffix).current? = some ch := by
  obtain ⟨rest, ahead⟩ := current?_eq_some current
  rw [current?, h.rest_append, ahead, String.toList_append, String.toList_append,
    String.toList_singleton]
  rfl

theorem WF.getch_append {c : Cursor} (h : c.WF) {ch : Char} (current : c.current? = some ch)
    (suffix : String) : (c.append suffix).perform .getch = grow suffix (c.perform .getch) := by
  rw [Cursor.perform, Cursor.perform, Cursor.getch, Cursor.getch, h.current?_append current, current]
  rfl

/-- A way back lies within what is behind the cursor, also where it is cut off at the start. -/
theorem WF.stepBack_append {c : Cursor} (h : c.WF) (suffix : String) (n : Nat) :
    stepBack (c.append suffix).text n (c.append suffix).offset = stepBack c.text n c.offset := by
  have grown := h.append suffix
  have inside : c.position - n ≤ c.text.length := Nat.le_trans (Nat.sub_le _ _) h.position_le
  rw [grown.offset, stepBack_offsetOf grown.position_le, h.offset, stepBack_offsetOf h.position_le]
  exact Text.offsetOf_append inside suffix

theorem WF.unscan_append {c : Cursor} (h : c.WF) (suffix : String) :
    (c.append suffix).perform .unscan = grow suffix (c.perform .unscan) := by
  have same : (c.append suffix).matched = c.matched := rfl
  rw [Cursor.perform, Cursor.perform, Cursor.unscan, Cursor.unscan, same]
  cases c.matched with
  | none => rfl
  | some m =>
    simp only [h.stepBack_append suffix]
    rfl

/-- A step that succeeds can be exchanged with an addition to the text. -/
theorem WF.perform_append {c : Cursor} (h : c.WF) {a : Action} (ha : a.isStep = true)
    (ok : (c.perform a).result.isOk = true) (suffix : String) :
    (c.append suffix).perform a = grow suffix (c.perform a) := by
  cases a with
  | unscan => exact h.unscan_append suffix
  | getch =>
    rcases getch_cases c with ⟨_, failed⟩ | ⟨ch, _, current, _⟩
    · rw [Cursor.perform, failed] at ok
      cases ok
    · exact h.getch_append current suffix
  | _ => cases ha

/-! ## Runs -/

/-- A run of steps that all succeed can be exchanged with an addition to the text. -/
theorem WF.performAll_grown {c : Cursor} (h : c.WF) {steps : List Action}
    (hsteps : ∀ a ∈ steps, a.isStep = true)
    (ok : ∀ e ∈ c.performAll steps, e.result.isOk = true) (suffix : String) :
    (c.append suffix).performAll steps = (c.performAll steps).map (grow suffix) ∧
      (c.append suffix).runAll steps = (c.runAll steps).append suffix := by
  induction steps generalizing c with
  | nil => exact ⟨rfl, rfl⟩
  | cons a steps ih =>
    have first := h.perform_append (hsteps a List.mem_cons_self)
      (ok (c.perform a) List.mem_cons_self) suffix
    obtain ⟨answers, arrived⟩ := ih (h.perform a)
      (fun b hb => hsteps b (List.mem_cons_of_mem a hb))
      (fun e he => ok e (List.mem_cons_of_mem _ he))
    have after : ((c.append suffix).perform a).after = (c.perform a).after.append suffix := by
      rw [first]
      rfl
    refine ⟨?_, ?_⟩
    · rw [performAll, performAll, List.map_cons, after, answers, first]
    · rw [runAll_cons, runAll_cons, after, arrived]

/-- A cursor at the end of a text stands at the first character of what is added. -/
theorem WF.append_at_end {c : Cursor} (h : c.WF) (arrived : c.atEnd = true) {suffix : String}
    (something : suffix ≠ "") :
    (c.append suffix).atEnd = false ∧
      ∃ ch, suffix.toList.head? = some ch ∧ (c.append suffix).getch.result = .ok ch := by
  have ahead : (c.append suffix).rest = suffix := by
    rw [h.rest_append, h.atEnd_iff_rest.1 arrived, String.empty_append]
  refine ⟨?_, ?_⟩
  · rw [Bool.eq_false_iff, Ne, (h.append suffix).atEnd_iff_rest, ahead]
    exact something
  · rcases getch_cases (c.append suffix) with ⟨nothing, _⟩ | ⟨ch, _, current, _, given, _, _⟩
    · exact absurd (ahead.symm.trans nothing) something
    · rw [current?, ahead] at current
      exact ⟨ch, current, given⟩

/-- **Additions to the text commute with steps by characters.** Two additions to a reachable cursor are
one, and a new cursor answers all that follows as one that is made with the whole text. A run of steps
forwards and back in which no step fails gives the same before an addition and after it, and leads to
the same cursor. At the end of a text, what is added is what comes next. -/
theorem Reachable.append_commutes {c : Cursor} (h : c.Reachable) :
    (∀ a b, (c.append a).append b = c.append (a ++ b)) ∧
    (∀ a b as, ((new a).append b).performAll as = (new (a ++ b)).performAll as) ∧
    (∀ (steps : List Action) (a : String), (∀ s ∈ steps, s.isStep = true) →
      (∀ e ∈ c.performAll steps, e.result.isOk = true) →
      ((c.append a).performAll steps).map Effect.result = (c.performAll steps).map Effect.result ∧
      (c.append a).runAll steps = (c.runAll steps).append a) ∧
    ∀ a, c.atEnd = true → a ≠ "" →
      (c.append a).atEnd = false ∧
      ∃ ch, a.toList.head? = some ch ∧ (c.append a).getch.result = .ok ch := by
  refine ⟨append_append c, ?_, ?_, ?_⟩
  · intro a b as
    rw [append_new]
  · intro steps a hsteps ok
    obtain ⟨answers, arrived⟩ := h.wf.performAll_grown hsteps ok a
    refine ⟨?_, arrived⟩
    -- an addition to the cursors that are left does not show in the results
    rw [answers, List.map_map]
    rfl
  · intro a arrived something
    exact h.wf.append_at_end arrived something

/-- Behind a foreign match that is longer than what lies behind: back to the start, on over characters
of two bytes to the end, and back by one, before an addition and after it; and an addition at the end,
between a step and its undoing. -/
theorem append_commutes_accented :
    let c := (new "né").runAll [.restore ⟨"né", 1, some "zzz"⟩]
    let steps : List Action := [.unscan, .getch, .getch, .unscan, .unscan, .getch]
    let d := c.runAll steps
    c.Reachable ∧ (∀ s ∈ steps, s.isStep = true) ∧
    (∀ e ∈ c.performAll steps, e.result.isOk = true) ∧
    ((c.append "üa").performAll steps).map Effect.result =
      (c.performAll steps).map Effect.result ∧
    (c.append "üa").runAll steps = d.append "üa" ∧
    d.Reachable ∧ d.atEnd = true ∧ (d.append "üa").atEnd = false ∧
    (∃ ch, "üa".toList.head? = some ch ∧ (d.append "üa").getch.result = .ok ch) ∧
    (d.append "üa").runAll [.unscan] = (d.runAll [.unscan]).append "üa" := by
  intro c steps d
  have reached : c.Reachable := (Reachable.made (.new "né")).runAll _
  have reached' : d.Reachable := reached.runAll steps
  have stepping : ∀ s ∈ steps, s.isStep = true := by decide
  have succeeds : ∀ e ∈ c.performAll steps, e.result.isOk = true := by decide +kernel
  have arrived : d.atEnd = true := by decide +kernel
  obtain ⟨-, -, exchange, -⟩ := Reachable.append_commutes reached
  obtain ⟨-, -, exchange', onwards⟩ := Reachable.append_commutes reached'
  obtain ⟨given, same⟩ := exchange steps "üa" stepping succeeds
  obtain ⟨further, next⟩ := onwards "üa" arrived (by decide)
  have back := (exchange' [.unscan] "üa" (by decide) (by decide +kernel)).2
  exact ⟨reached, stepping, succeeds, given, same, reached', arrived, further, next, back⟩

end TextCursor.Cursor
