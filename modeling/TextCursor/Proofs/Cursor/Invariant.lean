import TextCursor.Cursor.Action
import TextCursor.Proofs.Text.Offset

/-!
# The two forms of the position

A cursor keeps its position as a number of characters and as an offset in bytes, and each operation
updates the two by computations of their own. `Reachable.positions_agree` says that they agree at
every cursor that can be reached, however its actions are mixed and whether they succeed or fail:
so the rest of the text is what it should be, every place at which a text is cut is a border
between characters, and no sum leaves 64 bits.

`attempt_cases` says once what an attempt to match can do; what any action does to the position is
derived from it.
-/

namespace TextCursor.Cursor

open Text (offsetOf)

/-! ## Well-formed cursors -/

theorem wf_iff {c : Cursor} :
    c.WF ↔ c.position ≤ c.text.length ∧ c.offset = offsetOf c.text c.position := by
  constructor
  · intro h
    refine ⟨h.position_le, String.Pos.Raw.ext ?_⟩
    rw [h.offset_eq, Text.byteIdx_offsetOf]
  · rintro ⟨position_le, offset_eq⟩
    exact ⟨position_le, by rw [offset_eq, Text.byteIdx_offsetOf]⟩

theorem WF.offset {c : Cursor} (h : c.WF) : c.offset = offsetOf c.text c.position :=
  (wf_iff.1 h).2

theorem WF.toList_rest {c : Cursor} (h : c.WF) :
    c.rest.toList = c.text.toList.drop c.position := by
  rw [rest, h.offset, Text.extract_offsetOf, String.toList_ofList]

theorem WF.atEnd_iff {c : Cursor} (h : c.WF) : c.atEnd = true ↔ c.position = c.text.length := by
  rw [atEnd, beq_iff_eq, h.offset, Text.offsetOf_eq_rawEndPos_iff h.position_le]

/-- The text falls into what lies behind the cursor and what lies ahead. -/
theorem WF.text_eq {c : Cursor} (h : c.WF) :
    c.text = String.ofList (c.text.toList.take c.position) ++ c.rest := by
  rw [← String.toList_inj, String.toList_append, String.toList_ofList, h.toList_rest,
    List.take_append_drop]

theorem WF.length_rest {c : Cursor} (h : c.WF) :
    c.position + c.rest.length = c.text.length := by
  have := h.position_le
  rw [← String.length_toList (s := c.rest), h.toList_rest, List.length_drop, String.length_toList]
  omega

theorem WF.atEnd_iff_rest {c : Cursor} (h : c.WF) : c.atEnd = true ↔ c.rest = "" := by
  have total := h.length_rest
  rw [h.atEnd_iff, ← String.length_eq_zero_iff]
  omega

theorem WF.size_rest {c : Cursor} (h : c.WF) :
    c.offset.byteIdx + c.rest.utf8ByteSize = c.text.utf8ByteSize := by
  rw [h.offset, ← String.utf8Len_toList, h.toList_rest, Text.offsetOf_add_utf8Len_drop]

/-! ## Moving over a piece of the rest -/

/-- A cursor that has moved over a piece of the rest of another one: its position has grown by the
characters of the piece and its offset by the bytes. -/
structure MovedOver (c : Cursor) (piece : String) (c' : Cursor) : Prop where
  text_eq : c'.text = c.text
  position_eq : c'.position = c.position + piece.length
  offset_eq : c'.offset = c.offset + piece

/-- A cursor that stays where it is has moved over nothing. -/
theorem movedOver_nothing {c c' : Cursor} (text_eq : c'.text = c.text)
    (position_eq : c'.position = c.position) (offset_eq : c'.offset = c.offset) :
    c.MovedOver "" c' :=
  ⟨text_eq, position_eq, by simp [offset_eq, String.Pos.Raw.ext_iff]⟩

theorem MovedOver.wf {c c' : Cursor} {piece rest : String} (h : c.MovedOver piece c') (wf : c.WF)
    (ahead : c.rest = piece ++ rest) : c'.WF := by
  have drop : c.text.toList.drop c.position = piece.toList ++ rest.toList := by
    rw [← wf.toList_rest, ahead, String.toList_append]
  refine wf_iff.2 ⟨?_, ?_⟩
  · have total := wf.length_rest
    rw [ahead, String.length_append] at total
    rw [h.text_eq, h.position_eq]
    omega
  · rw [h.offset_eq, wf.offset, h.text_eq, h.position_eq, Text.offsetOf_add drop]

/-- Ahead of the moved cursor lies what followed the piece. -/
theorem MovedOver.rest_eq {c c' : Cursor} {piece rest : String} (h : c.MovedOver piece c')
    (wf : c.WF) (ahead : c.rest = piece ++ rest) : c'.rest = rest := by
  have drop : c.text.toList.drop c.position = piece.toList ++ rest.toList := by
    rw [← wf.toList_rest, ahead, String.toList_append]
  rw [← String.toList_inj, (h.wf wf ahead).toList_rest, h.text_eq, h.position_eq,
    ← List.drop_drop, drop, List.drop_left' String.length_toList]

/-! ## What each operation does -/

theorem attempt_of_error {c : Cursor} {pattern : String} {e : ScanError} {log : List Event}
    (h : c.patterns.get pattern = (.error e, log)) (options : MatchOptions) :
    c.attempt pattern options = ⟨.error e, c, log⟩ := by
  rw [attempt, h]

theorem attempt_of_ok {c : Cursor} {pattern : String} {p : Pattern} {patterns : Pattern.Cache}
    {log : List Event} (h : c.patterns.get pattern = (.ok (p, patterns), log))
    (options : MatchOptions) :
    c.attempt pattern options =
      let m := p.matched? options.anchored c.rest
      let found : Cursor := { c with matched := m, patterns }
      ⟨.ok (.ofMatched options.wanted m), if options.advance then found.moveBehind m else found,
        log ++ [c.matchEvent pattern m]⟩ := by
  rw [attempt, h]

/-- What is moved over where so much has been matched. -/
def MatchOptions.moved (options : MatchOptions) (m : Option String) : String :=
  if options.advance then m.getD "" else ""

/-- What an attempt to match can do. Either its text is no pattern, and all stays as it is; or the
register is what the pattern matched ahead, and the cursor moves over that if it is to move. -/
theorem attempt_cases (c : Cursor) (pattern : String) (options : MatchOptions) :
    (∃ cause, Pattern.compile pattern = .error cause ∧
      (c.attempt pattern options).result = .error (.invalidPattern pattern cause) ∧
      (c.attempt pattern options).after = c) ∨
    (∃ (p : Pattern) (m : Option String),
      (c.patterns.find? pattern = some p ∨ Pattern.compile pattern = .ok p) ∧
      p.matched? options.anchored c.rest = m ∧
      (c.attempt pattern options).result = .ok (.ofMatched options.wanted m) ∧
      (c.attempt pattern options).after.matched = m ∧
      c.MovedOver (options.moved m) (c.attempt pattern options).after) := by
  rcases c.patterns.get_cases pattern with ⟨cause, fails, got⟩ | ⟨p, patterns, log, origin, got⟩
  · refine .inl ⟨cause, fails, ?_⟩
    rw [attempt_of_error got]
    exact ⟨rfl, rfl⟩
  · refine .inr ⟨p, _, origin, rfl, ?_⟩
    rw [attempt_of_ok got, MatchOptions.moved]
    cases options.advance with
    | false => exact ⟨rfl, rfl, movedOver_nothing rfl rfl rfl⟩
    | true =>
      -- whether there is a match decides whether the two forms of the position grow at all
      cases hm : p.matched? options.anchored c.rest with
      | none => exact ⟨rfl, rfl, movedOver_nothing rfl rfl rfl⟩
      | some m => exact ⟨rfl, rfl, rfl, rfl, rfl⟩

/-- What is moved over begins the rest of the text, also where it is nothing. -/
theorem rest_eq_moved {c : Cursor} {p : Pattern} {options : MatchOptions} {m : Option String}
    (h : p.matched? options.anchored c.rest = m) : ∃ rest, c.rest = options.moved m ++ rest := by
  rw [MatchOptions.moved]
  cases options.advance with
  | false => exact ⟨c.rest, String.empty_append.symm⟩
  | true =>
    cases m with
    | none => exact ⟨c.rest, String.empty_append.symm⟩
    | some m => exact Pattern.matched?_append h

theorem current?_eq_some {c : Cursor} {ch : Char} (h : c.current? = some ch) :
    ∃ rest, c.rest = String.singleton ch ++ rest := by
  obtain ⟨cs, hcs⟩ := List.head?_eq_some_iff.1 h
  refine ⟨String.ofList cs, ?_⟩
  rw [← String.toList_inj, hcs, String.toList_append, String.toList_singleton,
    String.toList_ofList, List.singleton_append]

theorem current?_eq_none {c : Cursor} (h : c.current? = none) : c.rest = "" := by
  rwa [current?, List.head?_eq_none_iff, String.toList_eq_nil_iff] at h

/-- What taking one character can do. At the end of the text it fails and leaves all as it is. -/
theorem getch_cases (c : Cursor) :
    (c.rest = "" ∧ c.getch = .fail (.endOfInput c.position) c) ∨
    (∃ ch rest, c.current? = some ch ∧ c.rest = String.singleton ch ++ rest ∧
      c.getch.result = .ok ch ∧ c.getch.after.matched = some (String.singleton ch) ∧
      c.MovedOver (String.singleton ch) c.getch.after) := by
  cases h : c.current? with
  | none => exact .inl ⟨current?_eq_none h, by rw [getch, h, Effect.fail]⟩
  | some ch =>
    obtain ⟨rest, ahead⟩ := current?_eq_some h
    refine .inr ⟨ch, rest, rfl, ahead, ?_⟩
    rw [getch, h]
    refine ⟨rfl, rfl, rfl, by simp, ?_⟩
    simp [String.Pos.Raw.ext_iff]

theorem stepBack_offsetOf {text : String} {n : Nat} (h : n ≤ text.length) (k : Nat) :
    stepBack text k (offsetOf text n) = offsetOf text (n - k) := by
  induction k generalizing n with
  | zero => rfl
  | succ k ih =>
    rw [stepBack, Text.prev_offsetOf h, ih (by omega), Nat.sub_sub, Nat.add_comm 1 k]

theorem bytesOfFirst?_eq (n : Nat) (cs : List Char) :
    bytesOfFirst? n cs = if n ≤ cs.length then some (String.utf8Len (cs.take n)) else none := by
  induction n generalizing cs with
  | zero => simp [bytesOfFirst?]
  | succ n ih =>
    cases cs with
    | nil => simp [bytesOfFirst?]
    | cons ch cs =>
      rw [bytesOfFirst?, ih, List.length_cons, List.take_succ_cons, String.utf8Len_cons]
      by_cases h : n ≤ cs.length
      · simp [h, Nat.add_comm]
      · simp [h]

/-- A cursor can be made exactly at the positions that the text has. -/
theorem newAt_eq (text : String) (position : Nat) :
    newAt text position =
      if position ≤ text.length then
        .ok { new text with position, offset := offsetOf text position }
      else .error (.outOfRange (min position greatestIndex) text.length) := by
  rw [newAt, bytesOfFirst?_eq, String.length_toList]
  by_cases h : position ≤ text.length
  · rw [if_pos h, if_pos h, offsetOf]
  · rw [if_neg h, if_neg h]

theorem restore_eq (s : Snapshot) :
    restore s =
      if s.position ≤ s.text.length then
        .ok ⟨s.text, s.position, offsetOf s.text s.position, s.lastMatch, .empty⟩
      else .error (.outOfRange (min s.position greatestIndex) s.text.length) := by
  rw [restore, newAt_eq]
  by_cases h : s.position ≤ s.text.length
  · rw [if_pos h, if_pos h]
    rfl
  · rw [if_neg h, if_neg h]
    rfl

/-! ## Every action keeps the two forms together -/

theorem wf_newAt {text : String} {position : Nat} {c : Cursor}
    (h : newAt text position = .ok c) : c.WF := by
  rw [newAt_eq] at h
  split at h
  · next le =>
    cases h
    exact wf_iff.2 ⟨le, rfl⟩
  · cases h

theorem wf_restore {s : Snapshot} {c : Cursor} (h : restore s = .ok c) : c.WF := by
  rw [restore_eq] at h
  split at h
  · next le =>
    cases h
    exact wf_iff.2 ⟨le, rfl⟩
  · cases h

theorem WF.attempt {c : Cursor} (h : c.WF) (pattern : String) (options : MatchOptions) :
    (c.attempt pattern options).after.WF := by
  rcases attempt_cases c pattern options with ⟨_, _, _, same⟩ | ⟨p, m, _, hm, _, _, moved⟩
  · rw [same]
    exact h
  · obtain ⟨rest, ahead⟩ := rest_eq_moved hm
    exact moved.wf h ahead

theorem WF.getch {c : Cursor} (h : c.WF) : c.getch.after.WF := by
  rcases getch_cases c with ⟨_, failed⟩ | ⟨ch, rest, _, ahead, _, _, moved⟩
  · rw [failed]
    exact h
  · exact moved.wf h ahead

/-- A step back keeps the two forms together whatever is remembered as matched: both count
characters of the text, and both stop at its start. -/
theorem WF.unscan {c : Cursor} (h : c.WF) : c.unscan.after.WF := by
  cases hm : c.matched with
  | none =>
    rw [Cursor.unscan, hm]
    exact h
  | some m =>
    rw [Cursor.unscan, hm]
    refine wf_iff.2 ⟨Nat.le_trans (Nat.sub_le _ _) h.position_le, ?_⟩
    show stepBack c.text m.length c.offset = offsetOf c.text (c.position - m.length)
    -- going back further than the start is cut off on both sides, by `prev` and by subtraction
    rw [h.offset, stepBack_offsetOf h.position_le]

theorem WF.append {c : Cursor} (h : c.WF) (suffix : String) : (c.append suffix).WF := by
  refine wf_iff.2 ⟨?_, ?_⟩
  · show c.position ≤ (c.text ++ suffix).length
    rw [String.length_append]
    exact Nat.le_trans h.position_le (Nat.le_add_right _ _)
  · show c.offset = offsetOf (c.text ++ suffix) c.position
    rw [h.offset, Text.offsetOf_append h.position_le]

theorem WF.replaceBy {c : Cursor} (h : c.WF) {made : Except ScanError Cursor}
    (hmade : ∀ c', made = .ok c' → c'.WF) : (c.replaceBy made).after.WF := by
  cases made with
  | error e => exact h
  | ok c' => exact hmade c' rfl

/-- Whether the action only looks at the cursor. -/
def Action.isQuery : Action → Bool
  | .peek _ | .item _ | .slice _ _ _ | .get _ | .current | .text | .length | .describe
  | .snapshot => true
  | .attempt _ _ | .search _ _ | .unscan | .getch | .append _ | .reload | .restore _ => false

theorem perform_of_isQuery {a : Action} (h : a.isQuery = true) (c : Cursor) :
    (c.perform a).after = c ∧ (c.perform a).log = [] := by
  cases a with
  | get key =>
    rw [perform]
    cases Key.ofText? key with
    | none => exact ⟨rfl, rfl⟩
    | some k => exact ⟨rfl, rfl⟩
  | attempt | search | unscan | getch | append | reload | restore => cases h
  | _ => exact ⟨rfl, rfl⟩

theorem WF.perform {c : Cursor} (h : c.WF) (a : Action) : (c.perform a).after.WF := by
  cases a with
  | attempt pattern options => exact h.attempt pattern options
  | search op pattern => exact h.attempt pattern (optionsOf op)
  | unscan => exact h.unscan
  | getch => exact h.getch
  | append suffix => exact h.append suffix
  | reload => exact h.replaceBy fun _ => wf_restore
  | restore s => exact h.replaceBy fun _ => wf_restore
  | _ => rw [(perform_of_isQuery rfl c).1]; exact h

theorem WF.runAll {c : Cursor} (h : c.WF) (as : List Action) : (c.runAll as).WF := by
  induction as generalizing c with
  | nil => exact h
  | cons a as ih =>
    rw [runAll_cons]
    exact ih (h.perform a)

/-! ## Reachable cursors -/

/-- The cursors that can be made: at the start of a text, at a position of it, or as a snapshot
says. -/
inductive Made : Cursor → Prop
  | new (text : String) : Made (new text)
  | newAt {text : String} {position : Nat} {c : Cursor} : newAt text position = .ok c → Made c
  | restore {s : Snapshot} {c : Cursor} : restore s = .ok c → Made c

/-- The cursors that actions lead to, from any that can be made. -/
inductive Reachable : Cursor → Prop
  | made {c : Cursor} : c.Made → Reachable c
  | step {c : Cursor} (a : Action) : Reachable c → Reachable (c.perform a).after

theorem Made.wf {c : Cursor} (h : c.Made) : c.WF := by
  cases h with
  | new text => exact wf_new text
  | newAt h => exact wf_newAt h
  | restore h => exact wf_restore h

theorem Reachable.wf {c : Cursor} (h : c.Reachable) : c.WF := by
  induction h with
  | made h => exact h.wf
  | step a _ ih => exact ih.perform a

theorem Reachable.runAll {c : Cursor} (h : c.Reachable) (as : List Action) :
    (c.runAll as).Reachable := by
  induction as generalizing c with
  | nil => exact h
  | cons a as ih =>
    rw [runAll_cons]
    exact ih (h.step a)

/-- The sums that moving over a piece of text computes fit 64 bits. -/
def SumsFit (c : Cursor) (piece : String) : Prop :=
  c.position + piece.length < Text.wordLimit ∧
    c.offset.byteIdx + piece.utf8ByteSize < Text.wordLimit

theorem WF.sumsFit {c : Cursor} (h : c.WF) {piece rest : String} (ahead : c.rest = piece ++ rest)
    (small : c.text.utf8ByteSize < Text.signedLimit) : c.SumsFit piece := by
  have bytes := h.size_rest
  have characters := h.length_rest
  have := Text.length_le_utf8ByteSize c.text
  rw [ahead, String.utf8ByteSize_append] at bytes
  rw [ahead, String.length_append] at characters
  have limits : Text.signedLimit ≤ Text.wordLimit := by decide
  constructor <;> omega

/-- What holds of a cursor when its two positions agree. Texts are cut at the offset, and the rest
is cut where a match ends; sums are computed where a match or a character is moved over. -/
structure Consistent (c : Cursor) : Prop where
  position_le : c.position ≤ c.text.length
  offset_eq : c.offset.byteIdx = (String.ofList (c.text.toList.take c.position)).utf8ByteSize
  offset_isValid : c.offset.IsValid c.text
  rest_eq : c.rest = String.ofList (c.text.toList.drop c.position)
  atEnd_iff : c.atEnd = true ↔ c.position = c.text.length
  match_isValid : ∀ (p : Pattern) (anchored : Bool) (m : String),
    p.matched? anchored c.rest = some m → m.rawEndPos.IsValid c.rest
  sums_fit : c.text.utf8ByteSize < Text.signedLimit →
    (∀ (p : Pattern) (anchored : Bool) (m : String),
      p.matched? anchored c.rest = some m → c.SumsFit m) ∧
    ∀ ch, c.current? = some ch → c.SumsFit (String.singleton ch)

theorem WF.consistent {c : Cursor} (h : c.WF) : c.Consistent where
  position_le := h.position_le
  offset_eq := h.offset_eq
  offset_isValid := by
    rw [h.offset]
    exact Text.offsetOf_isValid c.text c.position
  rest_eq := by rw [← String.toList_inj, h.toList_rest, String.toList_ofList]
  atEnd_iff := h.atEnd_iff
  match_isValid := by
    intro p anchored m hm
    obtain ⟨rest, ahead⟩ := Pattern.matched?_append hm
    rw [ahead]
    exact String.Pos.Raw.isValid_rawEndPos.append_right rest
  sums_fit := by
    intro small
    refine ⟨?_, ?_⟩
    · intro p anchored m hm
      obtain ⟨rest, ahead⟩ := Pattern.matched?_append hm
      exact h.sumsFit ahead small
    · intro ch hch
      obtain ⟨rest, ahead⟩ := current?_eq_some hch
      exact h.sumsFit ahead small

/-- **The two positions agree at every reachable cursor**, however it was made and whatever it
remembers as matched. -/
theorem Reachable.positions_agree {c : Cursor} (h : c.Reachable) : c.Consistent :=
  h.wf.consistent

/-- A step back over a match that is longer than what lies behind, and then on over a character of
two bytes. -/
theorem consistent_after_foreign_match :
    ∃ c : Cursor, restore ⟨"éa", 1, some "zzzz"⟩ = .ok c ∧
      (c.runAll [.unscan, .append "ü", .getch]).Reachable ∧
      (c.runAll [.unscan, .append "ü", .getch]).Consistent := by
  have restored := (restore_eq ⟨"éa", 1, some "zzzz"⟩).trans (if_pos (by decide))
  have reached := (Reachable.made (.restore restored)).runAll [.unscan, .append "ü", .getch]
  exact ⟨_, restored, reached, reached.positions_agree⟩

example :
    ((⟨"éa", 1, ⟨2⟩, some "zzzz", .empty⟩ : Cursor).runAll [.unscan, .append "ü", .getch]).rest
      = "aü" := by
  decide +kernel

end TextCursor.Cursor
