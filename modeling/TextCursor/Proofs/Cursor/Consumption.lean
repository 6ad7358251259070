import Mathlib.Algebra.Ring.Nat
import TextCursor.Proofs.Cursor.Invariant

/-!
# What a run consumes

Each step that moves forwards consumes a piece of the text ahead, and each step that appends adds to
it. `Reachable.loses_nothing` says of every run that neither goes back nor replaces the cursor that
the text behind the start, the pieces in their order and the rest at the end make up the text with
all that was appended: nothing is lost, doubled or moved.

`Consumed` says what one step does; it composes, so what a run does follows by induction.
-/

namespace TextCursor.Cursor

/-! ## Steps forwards -/

/-- Whether the action moves forwards where it succeeds. -/
def Action.advances : Action → Bool
  | .attempt _ options => options.advance
  | .search op _ => (optionsOf op).advance
  | .getch => true
  | _ => false

/-- Whether the action neither goes back nor puts another cursor in the place of this one. -/
def Action.goesOn : Action → Bool
  | .unscan | .reload | .restore _ => false
  | _ => true

/-- What the action adds to the end of the text. -/
def Action.appended : Action → String
  | .append suffix => suffix
  | _ => ""

/-- What some actions add to the end of the text. -/
def appended (as : List Action) : String :=
  String.join (as.map Action.appended)

/-- What an action moves over: what is remembered as matched after it, if it moves forwards and
succeeds. -/
def piece (c : Cursor) (a : Action) : String :=
  if a.advances && (c.perform a).result.isOk then (c.perform a).after.matched.getD "" else ""

theorem piece_of_error {c : Cursor} {a : Action} {e : ScanError}
    (h : (c.perform a).result = .error e) : c.piece a = "" := by
  rw [piece, h, Except.isOk, Except.toBool, Bool.and_false]
  rfl

theorem piece_of_ok {c : Cursor} {a : Action} {r : Answer} (h : (c.perform a).result = .ok r) :
    c.piece a = if a.advances then (c.perform a).after.matched.getD "" else "" := by
  rw [piece, h, Except.isOk, Except.toBool, Bool.and_true]

/-- What each of some actions moves over. -/
def pieces (c : Cursor) : List Action → List String
  | [] => []
  | a :: as => c.piece a :: (c.perform a).after.pieces as

theorem performAll_getElem? (c : Cursor) (as : List Action) (i : Nat) :
    (c.performAll as)[i]? = as[i]?.map (c.runAll (as.take i)).perform := by
  induction as generalizing c i with
  | nil => rfl
  | cons a as ih =>
    cases i with
    | zero => rfl
    | succ i => exact ih (c.perform a).after i

theorem pieces_getElem? (c : Cursor) (as : List Action) (i : Nat) :
    (c.pieces as)[i]? = as[i]?.map (c.runAll (as.take i)).piece := by
  induction as generalizing c i with
  | nil => rfl
  | cons a as ih =>
    cases i with
    | zero => rfl
    | succ i => exact ih (c.perform a).after i

/-! ## Consumption -/

/-- A cursor that has come from another one by adding to the end of the text and moving over a
piece of what was then ahead. -/
structure Consumed (c : Cursor) (added piece : String) (c' : Cursor) : Prop where
  text_eq : c'.text = c.text ++ added
  position_eq : c'.position = c.position + piece.length
  rest_eq : c.rest ++ added = piece ++ c'.rest

theorem Consumed.refl (c : Cursor) : c.Consumed "" "" c :=
  ⟨by simp, by simp, by simp⟩

theorem Consumed.trans {c c' c'' : Cursor} {added piece added' piece' : String}
    (h : c.Consumed added piece c') (h' : c'.Consumed added' piece' c'') :
    c.Consumed (added ++ added') (piece ++ piece') c'' where
  text_eq := by rw [h'.text_eq, h.text_eq, String.append_assoc]
  position_eq := by rw [h'.position_eq, h.position_eq, String.length_append, Nat.add_assoc]
  rest_eq := by
    rw [← String.append_assoc, h.rest_eq, String.append_assoc, h'.rest_eq, String.append_assoc]

theorem MovedOver.consumed {c c' : Cursor} {piece rest : String} (h : c.MovedOver piece c')
    (wf : c.WF) (ahead : c.rest = piece ++ rest) : c.Consumed "" piece c' where
  text_eq := by rw [h.text_eq, String.append_empty]
  position_eq := h.position_eq
  rest_eq := by rw [String.append_empty, h.rest_eq wf ahead, ahead]

/-- What is appended lies behind all that was ahead. -/
theorem WF.rest_append {c : Cursor} (h : c.WF) (suffix : String) :
    (c.append suffix).rest = c.rest ++ suffix := by
  have le : c.position ≤ c.text.toList.length := by
    rw [String.length_toList]
    exact h.position_le
  rw [← String.toList_inj, (h.append suffix).toList_rest, String.toList_append, h.toList_rest]
  show (c.text ++ suffix).toList.drop c.position = _
  rw [String.toList_append, List.drop_append_of_le_length le]

theorem WF.consumed_attempt {c : Cursor} (h : c.WF) (pattern : String) (options : MatchOptions) :
    c.Consumed "" (c.piece (.attempt pattern options)) (c.attempt pattern options).after := by
  rcases attempt_cases c pattern options with
    ⟨cause, _, failed, same⟩ | ⟨p, m, _, hm, ok, register, moved⟩
  · have nothing : c.piece (.attempt pattern options) = "" :=
      piece_of_error (Effect.result_map_of_error failed Answer.matched)
    rw [nothing, same]
    exact .refl c
  · have answered : (c.perform (.attempt pattern options)).result = .ok (.matched _) :=
      Effect.result_map_of_ok ok Answer.matched
    have same : c.piece (.attempt pattern options) = options.moved m := by
      rw [piece_of_ok answered, MatchOptions.moved, ← register]
      rfl
    obtain ⟨rest, ahead⟩ := rest_eq_moved hm
    rw [same]
    exact moved.consumed h ahead

theorem WF.consumed_getch {c : Cursor} (h : c.WF) :
    c.Consumed "" (c.piece .getch) c.getch.after := by
  rcases getch_cases c with ⟨_, failed⟩ | ⟨ch, rest, _, ahead, ok, register, moved⟩
  · have nothing : c.piece .getch = "" :=
      piece_of_error (Effect.result_map_of_error (congrArg Effect.result failed) Answer.char)
    rw [nothing, failed]
    exact .refl c
  · have answered : (c.perform .getch).result = .ok (.char ch) :=
      Effect.result_map_of_ok ok Answer.char
    have same : c.piece .getch = String.singleton ch := by
      rw [piece_of_ok answered]
      show c.getch.after.matched.getD "" = String.singleton ch
      rw [register, Option.getD_some]
    rw [same]
    exact moved.consumed h ahead

/-- What one step consumes, unless it goes back or replaces the cursor. -/
theorem WF.consumed {c : Cursor} (h : c.WF) {a : Action} (ha : a.goesOn = true) :
    c.Consumed a.appended (c.piece a) (c.perform a).after := by
  cases a with
  | attempt pattern options => exact h.consumed_attempt pattern options
  | search op pattern => exact h.consumed_attempt pattern (optionsOf op)
  | getch => exact h.consumed_getch
  | append suffix =>
    exact ⟨rfl, rfl, by rw [Action.appended]; exact (h.rest_append suffix).symm⟩
  | unscan | reload | restore => cases ha
  | _ =>
    rw [(perform_of_isQuery rfl c).1]
    exact .refl c

/-- What a run consumes is what its steps consume, one after another. -/
theorem WF.consumed_runAll {c : Cursor} (h : c.WF) {as : List Action}
    (has : ∀ a ∈ as, a.goesOn = true) :
    c.Consumed (appended as) (String.join (c.pieces as)) (c.runAll as) := by
  induction as generalizing c with
  | nil => exact .refl c
  | cons a as ih =>
    have first := h.consumed (has a List.mem_cons_self)
    have others := ih (h.perform a) fun b hb => has b (List.mem_cons_of_mem a hb)
    rw [runAll_cons, pieces, appended, List.map_cons, String.join_cons, String.join_cons]
    exact first.trans others

/-- A matching operation that moves and is asked for a length answers the length of what it has
moved over. -/
theorem length_of_search {c : Cursor} {op : MatchOp} {pattern : String} {r : MatchResult}
    (hop : op = .skip ∨ op = .skipUntil)
    (h : (c.perform (.search op pattern)).result = .ok (.matched r)) :
    r = .length (c.piece (.search op pattern)).length := by
  have moves : optionsOf op = ⟨true, (optionsOf op).anchored, .length⟩ := by
    rcases hop with rfl | rfl <;> rfl
  rw [piece_of_ok h]
  rcases attempt_cases c pattern (optionsOf op) with
    ⟨cause, _, failed, _⟩ | ⟨p, m, _, _, ok, register, _⟩
  · have failure : (c.perform (.search op pattern)).result = .error _ :=
      Effect.result_map_of_error failed Answer.matched
    rw [failure] at h
    cases h
  · have answered : (c.perform (.search op pattern)).result = .ok (.matched _) :=
      Effect.result_map_of_ok ok Answer.matched
    rw [h] at answered
    cases answered
    show _ = MatchResult.length (if (optionsOf op).advance
      then (c.attempt pattern (optionsOf op)).after.matched.getD "" else "").length
    rw [register, moves]
    cases m <;> rfl

/-- **No text is lost, doubled or moved.** What lies behind the start of a run, the pieces that its
steps move over, and what lies ahead at its end make up the text with all that was appended. -/
theorem Reachable.loses_nothing {c : Cursor} (h : c.Reachable) {as : List Action}
    (has : ∀ a ∈ as, a.goesOn = true) :
    (c.runAll as).text = c.text ++ appended as ∧
    c.text ++ appended as =
      String.ofList (c.text.toList.take c.position) ++ String.join (c.pieces as)
        ++ (c.runAll as).rest ∧
    (c.runAll as).position = c.position + ((c.pieces as).map String.length).sum ∧
    ∀ (i : Nat) (op : MatchOp) (pattern : String) (r : MatchResult),
      as[i]? = some (.search op pattern) → op = .skip ∨ op = .skipUntil →
      (c.performAll as)[i]?.map Effect.result = some (.ok (.matched r)) →
      ∃ piece, (c.pieces as)[i]? = some piece ∧ r = .length piece.length := by
  have consumed := h.wf.consumed_runAll has
  refine ⟨consumed.text_eq, ?_, ?_, ?_⟩
  · calc c.text ++ appended as
        = String.ofList (c.text.toList.take c.position) ++ (c.rest ++ appended as) := by
          rw [← String.append_assoc, ← h.wf.text_eq]
      _ = _ := by rw [consumed.rest_eq, String.append_assoc]
  · rw [consumed.position_eq, String.length_join]
  · intro i op pattern r ha hop hr
    -- each step of a run is a step of the cursor that the steps before it lead to
    rw [performAll_getElem?, ha] at hr
    refine ⟨(c.runAll (as.take i)).piece (.search op pattern), ?_, ?_⟩
    · rw [pieces_getElem?, ha]
      rfl
    · exact length_of_search hop (Option.some.inj hr)

/-- A run in which steps match, fail, are given what is no pattern, and meet the end of the text. -/
theorem loses_nothing_mixed :
    let c := new "ab12"
    let as : List Action := [.search .skip "[a-z]+", .search .scan "(", .append "é",
      .search .check "\\d", .search .scanUntil "2", .getch, .getch]
    c.Reachable ∧ (∀ a ∈ as, a.goesOn = true) ∧
    c.pieces as = ["ab", "", "", "", "12", "é", ""] ∧
    (c.runAll as).text = "ab12" ++ appended as ∧
    "ab12" ++ appended as =
      String.ofList ("ab12".toList.take 0) ++ String.join (c.pieces as) ++ (c.runAll as).rest ∧
    (c.runAll as).position = 0 + ((c.pieces as).map String.length).sum ∧
    ∃ piece, (c.pieces as)[0]? = some piece ∧ MatchResult.length 2 = .length piece.length := by
  intro c as
  have reached : c.Reachable := .made (.new "ab12")
  have onwards : ∀ a ∈ as, a.goesOn = true := by decide
  obtain ⟨text, whole, position, counts⟩ := Reachable.loses_nothing reached onwards
  exact ⟨reached, onwards, by decide +kernel, text, whole, position,
    counts 0 .skip "[a-z]+" (.length 2) rfl (.inl rfl) (by decide +kernel)⟩

end TextCursor.Cursor
