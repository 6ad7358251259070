import TextCursor.Proofs.Cursor.Matching
import TextCursor.Proofs.Pattern.Leftmost

/-!
# Matching at the cursor and anywhere ahead

Each operation that matches at the cursor has one beside it that matches anywhere ahead. Where the
first finds something the two do the same, and where it does not the second goes further or finds
nothing either (`Reachable.unanchored_widens`): the match need not begin at the cursor, but one that
does is preferred, whatever the pattern chooses between.
-/

namespace TextCursor.Cursor

variable {α : Type}

/-- An operation that answers what it has found ahead, remembers it and moves behind it or stays. -/
structure Finds (c : Cursor) (answer : Option String → α) (moves : Bool) (e : Op α) : Prop where
  result : e.result = .ok (answer e.after.matched)
  text : e.after.text = c.text
  position : e.after.position = c.position + if moves then lengthOf e.after.matched else 0

/-- Two operations, of which the second does what the first does unless the first finds nothing, and
then finds nothing or a piece of the text ahead. -/
structure Widens (c : Cursor) (answer : Option String → α) (moves : Bool) (near far : Op α) :
    Prop where
  near_finds : Finds c answer moves near
  far_finds : Finds c answer moves far
  same : ∀ m, near.after.matched = some m → far = near
  further : near.after.matched = none → far = near ∨
    ∃ m tail, far.after.matched = some m ∧ m ≠ "" ∧ c.rest = m ++ tail

theorem Gives.finds {c : Cursor} {options : MatchOptions} {r : Option String} {e : Op MatchResult}
    (h : Gives c options r e) {form : Option String → MatchResult → α}
    {answer : Option String → α}
    (asked : ∀ m r, form m (.ofMatched options.wanted r) = answer r) :
    Finds c answer options.advance (answerAs form e) where
  result := by
    have given : e.result = .ok (.ofMatched options.wanted r) := by
      rw [h.result]
      cases options.wanted <;> rfl
    rw [result_answerAs_of_ok given, asked, after_answerAs, h.matched]
  text := h.text
  position := by
    rw [after_answerAs, h.matched]
    exact h.position

theorem widens_attempt {c : Cursor} {pattern : String} {p : Pattern} {patterns : Pattern.Cache}
    {log : List Event} (got : c.patterns.get pattern = (.ok (p, patterns), log)) (advance : Bool)
    (wanted : Wanted) {form : Option String → MatchResult → α} {answer : Option String → α}
    (asked : ∀ m r, form m (.ofMatched wanted r) = answer r) :
    Widens c answer advance (answerAs form (c.attempt pattern ⟨advance, true, wanted⟩))
      (answerAs form (c.attempt pattern ⟨advance, false, wanted⟩)) := by
  have near := gives_attempt got ⟨advance, true, wanted⟩
  have far := gives_attempt got ⟨advance, false, wanted⟩
  have alike (same : p.matched? false c.rest = p.matched? true c.rest) :
      answerAs form (c.attempt pattern ⟨advance, false, wanted⟩) =
        answerAs form (c.attempt pattern ⟨advance, true, wanted⟩) := by
    rw [attempt_of_ok got, attempt_of_ok got]
    dsimp only
    rw [same]
  refine ⟨near.finds asked, far.finds asked, ?_, ?_⟩
  · intro m found
    rw [after_answerAs, near.matched] at found
    exact alike ((Pattern.matched?_unanchored_of_some found).trans found.symm)
  · intro nothing
    rw [after_answerAs, near.matched] at nothing
    cases found : p.matched? false c.rest with
    | none => exact .inl (alike (found.trans nothing.symm))
    | some m =>
      obtain ⟨tail, ahead⟩ := Pattern.matched?_append found
      refine .inr ⟨m, tail, ?_, Pattern.ne_empty_of_matched? nothing found, ahead⟩
      rw [after_answerAs, far.matched]
      exact found

/-- **Matching anywhere ahead widens matching at the cursor.** Where an operation finds something at
the cursor, the one that looks anywhere ahead does the same in all respects; where it does not, that one
finds nothing either or a piece of the rest that is not empty. Both find what the pattern matches from a
position of the rest: the one from its start, the other from the first position where it matches. -/
theorem Reachable.unanchored_widens {c : Cursor} (h : c.Reachable) {pattern : String} {p : Pattern}
    (compiled : Pattern.compile pattern = .ok p) :
    Widens c id false (c.check pattern) (c.checkUntil pattern) ∧
    Widens c id true (c.scan pattern) (c.scanUntil pattern) ∧
    Widens c lengthOf true (c.skip pattern) (c.skipUntil pattern) ∧
    (c.check pattern).result = .ok (p.matchedFrom? c.rest 0) ∧
    (c.checkUntil pattern).result =
      .ok ((List.range (c.rest.length + 1)).findSome? (p.matchedFrom? c.rest)) := by
  rcases c.patterns.get_cases pattern with ⟨cause, fails, _⟩ | ⟨q, patterns, log, origin, got⟩
  · rw [compiled] at fails
    cases fails
  · rw [h.valid.compile_eq origin, Except.ok.injEq] at compiled
    subst compiled
    refine ⟨widens_attempt got false .text fun _ _ => rfl,
      widens_attempt got true .text fun _ _ => rfl,
      widens_attempt got true .length fun _ _ => rfl, ?_, ?_⟩
    · rw [Pattern.matchedFrom?_zero]
      exact result_answerAs_of_ok (gives_attempt got ⟨false, true, .text⟩).result MatchResult.textOr
    · rw [← Pattern.matched?_unanchored]
      exact result_answerAs_of_ok (gives_attempt got ⟨false, false, .text⟩).result MatchResult.textOr

/-- A choice whose second branch matches one character further on, and one whose first branch matches
less at the cursor than the second. -/
theorem unanchored_widens_choices :
    let c := (new "éab").runAll [.getch]
    c.Reachable ∧ (Pattern.compile "x|b").isOk = true ∧ (Pattern.compile "a|ab").isOk = true ∧
    (c.check "x|b").after.matched = none ∧ (c.checkUntil "x|b").result = .ok (some "ab") ∧
    Widens c id false (c.check "x|b") (c.checkUntil "x|b") ∧
    (c.skip "a|ab").result = .ok 1 ∧ c.skipUntil "a|ab" = c.skip "a|ab" := by
  intro c
  have reached : c.Reachable := (Reachable.made (.new "éab")).runAll _
  obtain ⟨p, compiled⟩ : ∃ p, Pattern.compile "x|b" = .ok p := ⟨_, rfl⟩
  obtain ⟨q, compiled'⟩ : ∃ q, Pattern.compile "a|ab" = .ok q := ⟨_, rfl⟩
  obtain ⟨look, -, -, -, -⟩ := Reachable.unanchored_widens reached compiled
  obtain ⟨-, -, count, -, -⟩ := Reachable.unanchored_widens reached compiled'
  have found : (c.skip "a|ab").after.matched = some "a" := by decide +kernel
  refine ⟨reached, by rw [compiled]; rfl, by rw [compiled']; rfl, by decide +kernel,
    by decide +kernel, look, ?_, count.same "a" found⟩
  rw [count.near_finds.result, found]
  decide

end TextCursor.Cursor
