import TextCursor.Proofs.Cursor.Ahead

/-!
# Stepping back

`unscan` goes back over what is remembered as matched and forgets it. `Reachable.steps_back` says where
that leads: behind an action that has moved forwards it leads to where the cursor was before, whatever
has been looked at or added to the text in between; and in general it goes back as many characters as
are remembered, or to the start of the text if there are fewer.

The way back is found from the length of what is remembered alone (`WF.unscan_back`), and an action that
moves forwards moves by just that length (`WF.moved_forwards`).
-/

namespace TextCursor.Cursor

/-! ## One step back -/

/-- A cursor that has gone back by so many characters, or to the start of the text. -/
structure Back (c : Cursor) (n : Nat) (back : Cursor) : Prop where
  position : back.position = c.position - min c.position n
  text : back.text = c.text
  rest : back.rest = String.ofList (c.text.toList.drop back.position)
  matched : back.matched = none

theorem unscan_of_none {c : Cursor} (h : c.matched = none) : c.unscan.after = c := by
  unfold unscan
  rw [h]

theorem WF.unscan_back {c : Cursor} (h : c.WF) {m : String} (register : c.matched = some m) :
    Back c m.length c.unscan.after := by
  have position : c.unscan.after.position = c.position - m.length := by
    unfold Cursor.unscan
    rw [register]
  have text : c.unscan.after.text = c.text := by
    unfold Cursor.unscan
    rw [register]
  refine ⟨by omega, text, ?_, matched_unscan c⟩
  rw [← String.toList_inj, h.unscan.toList_rest, text, String.toList_ofList]

/-- A second step back has nothing to go back over. -/
theorem unscan_unscan (c : Cursor) : c.unscan.after.unscan.after = c.unscan.after :=
  unscan_of_none (matched_unscan c)

/-! ## Forwards and back -/

/-- Whether the action only looks, or adds to the end of the text. -/
def Action.stays : Action → Bool
  | .append _ => true
  | a => a.isQuery

/-- A cursor at the same place of a text that has grown. -/
structure Grown (c : Cursor) (added : String) (c' : Cursor) : Prop where
  text : c'.text = c.text ++ added
  position : c'.position = c.position
  matched : c'.matched = c.matched

theorem grown_perform (c : Cursor) {a : Action} (h : a.stays = true) :
    Grown c a.appended (c.perform a).after := by
  have of_query (query : a.isQuery = true) (nothing : a.appended = "") :
      Grown c a.appended (c.perform a).after := by
    rw [(perform_of_isQuery query c).1, nothing]
    exact ⟨String.append_empty.symm, rfl, rfl⟩
  cases a with
  | append suffix => exact ⟨rfl, rfl, rfl⟩
  | attempt | search | unscan | getch | reload | restore => cases h
  | _ => exact of_query rfl rfl

theorem grown_runAll (c : Cursor) {as : List Action} (h : ∀ a ∈ as, a.stays = true) :
    Grown c (appended as) (c.runAll as) := by
  induction as generalizing c with
  | nil => exact ⟨String.append_empty.symm, rfl, rfl⟩
  | cons a as ih =>
    have first := grown_perform c (h a List.mem_cons_self)
    have others := ih (c.perform a).after fun b hb => h b (List.mem_cons_of_mem a hb)
    rw [runAll_cons, appended, List.map_cons, String.join_cons]
    constructor
    · rw [others.text, first.text, String.append_assoc]
      rfl
    · rw [others.position, first.position]
    · rw [others.matched, first.matched]

theorem goesOn_of_advances {a : Action} (h : a.advances = true) :
    a.goesOn = true ∧ a.appended = "" ∧ a.looksAhead = true ∧ a.side?.isSome = true := by
  cases a with
  | attempt | search | getch => exact ⟨rfl, rfl, rfl, rfl⟩
  | _ => cases h

/-- An action that moves forwards and succeeds moves by the length of what it leaves remembered. -/
theorem WF.moved_forwards {c : Cursor} (h : c.WF) {a : Action} {r : Answer}
    (forwards : a.advances = true) (ok : (c.perform a).result = .ok r) :
    (c.perform a).after.text = c.text ∧
      (c.perform a).after.position =
        c.position + ((c.perform a).after.matched.getD "").length := by
  obtain ⟨goesOn, nothing, _⟩ := goesOn_of_advances forwards
  have consumed := h.consumed goesOn
  rw [nothing, piece_of_ok ok, if_pos forwards] at consumed
  refine ⟨?_, consumed.position_eq⟩
  rw [consumed.text_eq, String.append_empty]

/-- A step back from where a move has led, in a text that may have grown since. -/
theorem WF.back_again {c moved : Cursor} (h : c.WF) {added : String} (wf : moved.WF)
    (text : moved.text = c.text ++ added)
    (position : moved.position = c.position + (moved.matched.getD "").length) :
    Grown { c with matched := none } added moved.unscan.after ∧
      moved.unscan.after.rest = c.rest ++ added := by
  have grown : Grown { c with matched := none } added moved.unscan.after := by
    cases register : moved.matched with
    | none =>
      rw [unscan_of_none register]
      rw [register] at position
      exact ⟨text, position, register⟩
    | some m =>
      have back := wf.unscan_back register
      rw [register] at position
      refine ⟨back.text.trans text, ?_, back.matched⟩
      rw [back.position, position]
      show c.position + m.length - min (c.position + m.length) m.length = c.position
      omega
  refine ⟨grown, ?_⟩
  rw [← h.rest_append, ← String.toList_inj, wf.unscan.toList_rest, (h.append added).toList_rest,
    grown.text, grown.position]
  rfl

/-- An action that has been stepped back over does again what it did. -/
theorem Valid.perform_again {c back : Cursor} (h : c.Valid) (hback : back.Valid)
    (text : back.text = c.text) (position : back.position = c.position) (rest : back.rest = c.rest)
    {a : Action} {r : Answer} (forwards : a.advances = true) (ok : (c.perform a).result = .ok r) :
    (back.perform a).result = .ok r ∧ (back.perform a).after.LooksLike (c.perform a).after := by
  obtain ⟨_, _, looks, sided⟩ := goesOn_of_advances forwards
  have level : Level 0 0 c back := level_of_rest_eq h.wf hback.wf rest.symm (by rw [position])
  obtain ⟨⟨result, after⟩, register⟩ := h.perform_level hback level looks
  have remembered : c.remembers a = true := by
    rw [remembers, sided, ok]
    rfl
  have ok' : (back.perform a).result = .ok r := by rw [← result.eq, ok]
  refine ⟨ok', ?_, ?_, (register (.inr remembered)).symm, after.rest_eq.symm, after.atEnd_eq.symm⟩
  · rw [(hback.wf.moved_forwards forwards ok').1, text, (h.wf.moved_forwards forwards ok).1]
  · have := after.position_eq
    omega

/-- **A step back leads to where the last match began.** Behind any action that has moved forwards and
succeeded, and whatever has been looked at or added since, it brings the cursor back to where it was,
before the text that has been added; with nothing added, the action then does again what it did. In
general it goes back as many characters as are remembered, or to the start, and then nothing is
remembered; with nothing remembered it does nothing, so a second step back does nothing. -/
theorem Reachable.steps_back {c : Cursor} (h : c.Reachable) :
    (∀ (a : Action) (r : Answer) (bs : List Action), a.advances = true →
      (c.perform a).result = .ok r → (∀ b ∈ bs, b.stays = true) →
      let back := ((c.perform a).after.runAll bs).unscan.after
      back.position = c.position ∧ back.text = c.text ++ appended bs ∧
      back.rest = c.rest ++ appended bs ∧ back.matched = none ∧
      (appended bs = "" → (back.perform a).result = .ok r ∧
        (back.perform a).after.LooksLike (c.perform a).after)) ∧
    (∀ m, c.matched = some m → Back c m.length c.unscan.after) ∧
    (c.matched = none → c.unscan.after = c) ∧
    c.unscan.after.unscan.after = c.unscan.after := by
  have valid := h.valid
  refine ⟨?_, fun m => valid.wf.unscan_back, unscan_of_none, unscan_unscan c⟩
  intro a r bs forwards ok stays back
  obtain ⟨text, position⟩ := valid.wf.moved_forwards forwards ok
  have grown := grown_runAll (c.perform a).after stays
  have moved := (valid.perform a).runAll bs
  have text' : ((c.perform a).after.runAll bs).text = c.text ++ appended bs := by
    rw [grown.text, text]
  have position' : ((c.perform a).after.runAll bs).position =
      c.position + (((c.perform a).after.runAll bs).matched.getD "").length := by
    rw [grown.position, grown.matched, position]
  obtain ⟨again, rest⟩ := valid.wf.back_again moved.wf text' position'
  refine ⟨again.position, again.text, rest, again.matched, ?_⟩
  intro nothing
  have sameText : back.text = c.text := by rw [again.text, nothing, String.append_empty]
  have sameRest : back.rest = c.rest := by rw [rest, nothing, String.append_empty]
  exact valid.perform_again (moved.perform .unscan) sameText again.position sameRest forwards ok

/-- Back over a match of a search that begins at a character of two bytes, after more text has been
added and without; and back over a foreign match that is longer than what lies behind. -/
theorem steps_back_accented :
    let c := (new "né a").runAll [.getch, .search .check "é"]
    let d := (new "né a").runAll [.restore ⟨"né a", 2, some "zzz"⟩]
    let a : Action := .search .skipUntil "a"
    let bs : List Action := [.append "ü", .peek 1]
    let back := ((c.perform a).after.runAll bs).unscan.after
    let again := ((c.perform a).after.runAll [.peek 1]).unscan.after
    c.Reachable ∧ d.Reachable ∧ a.advances = true ∧
    (c.perform a).result = .ok (.matched (.length 3)) ∧ (∀ b ∈ bs, b.stays = true) ∧
    back.position = 1 ∧ back.rest = "é aü" ∧ back.matched = none ∧
    (again.perform a).result = .ok (.matched (.length 3)) ∧
    c.matched = some "é" ∧ Back c 1 c.unscan.after ∧
    d.matched = some "zzz" ∧ Back d 3 d.unscan.after ∧ d.unscan.after.position = 0 := by
  intro c d a bs back again
  have reached : c.Reachable := (Reachable.made (.new "né a")).runAll _
  have reached' : d.Reachable := (Reachable.made (.new "né a")).runAll _
  have forwards : a.advances = true := rfl
  have ok : (c.perform a).result = .ok (.matched (.length 3)) := by decide +kernel
  have stays : ∀ b ∈ bs, b.stays = true := by decide
  have register : c.matched = some "é" := by decide +kernel
  have register' : d.matched = some "zzz" := by decide +kernel
  obtain ⟨forth, looked, -, -⟩ := Reachable.steps_back reached
  obtain ⟨-, foreign, -, -⟩ := Reachable.steps_back reached'
  obtain ⟨position, -, rest, nothing, -⟩ := forth a (.matched (.length 3)) bs forwards ok stays
  obtain ⟨-, -, -, -, repeated⟩ :=
    forth a (.matched (.length 3)) [.peek 1] forwards ok (by decide)
  have away := foreign "zzz" register'
  refine ⟨reached, reached', forwards, ok, stays, ?_, ?_, nothing, (repeated rfl).1, register,
    looked "é" register, register', away, ?_⟩
  · exact position.trans (by decide +kernel)
  · exact rest.trans (by decide +kernel)
  · exact away.position.trans (by decide +kernel)

end TextCursor.Cursor
