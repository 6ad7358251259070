import TextCursor.Proofs.Cursor.Reload

/-!
# The matching operations agree

All matching operations are attempts to match, which differ in whether they move, where the match may
begin, and what they answer. `matching_family_agrees` says that these choices do not get in each other's
way: from one cursor, attempts that differ in whether they move and what they answer fail alike or find
the same, and to look before another attempt changes neither what that answers nor where it leads.
-/

namespace TextCursor.Cursor

/-! ## Attempts from one cursor -/

/-- What an attempt gives that has found `r` ahead of a cursor. -/
structure Gives (c : Cursor) (options : MatchOptions) (r : Option String) (e : Op MatchResult) :
    Prop where
  result : e.result =
    match options.wanted with
    | .text => .ok (.text r)
    | .length => .ok (.length (lengthOf r))
  matched : e.after.matched = r
  text : e.after.text = c.text
  position : e.after.position = c.position + if options.advance then lengthOf r else 0

theorem gives_attempt {c : Cursor} {pattern : String} {p : Pattern} {patterns : Pattern.Cache}
    {log : List Event} (got : c.patterns.get pattern = (.ok (p, patterns), log))
    (options : MatchOptions) :
    Gives c options (p.matched? options.anchored c.rest) (c.attempt pattern options) := by
  rw [attempt_of_ok got]
  cases options with
  | mk advance anchored wanted =>
    generalize p.matched? anchored c.rest = r
    constructor
    · cases wanted <;> rfl
    · cases advance <;> cases r <;> rfl
    · cases advance <;> cases r <;> rfl
    · cases advance <;> cases r <;> rfl

/-- Attempts from one cursor that look in the same way fail alike or find the same. -/
theorem attempts_agree (c : Cursor) (pattern : String) (anchored : Bool) :
    (∃ e, ∀ advance wanted,
      (c.attempt pattern ⟨advance, anchored, wanted⟩).result = .error e ∧
        (c.attempt pattern ⟨advance, anchored, wanted⟩).after = c) ∨
    ∃ r, ∀ advance wanted,
      Gives c ⟨advance, anchored, wanted⟩ r (c.attempt pattern ⟨advance, anchored, wanted⟩) := by
  rcases c.patterns.get_cases pattern with ⟨cause, _, got⟩ | ⟨p, patterns, log, _, got⟩
  · refine .inl ⟨.invalidPattern pattern cause, ?_⟩
    intro advance wanted
    rw [attempt_of_error got]
    exact ⟨rfl, rfl⟩
  · refine .inr ⟨p.matched? anchored c.rest, ?_⟩
    intro advance wanted
    exact gives_attempt got ⟨advance, anchored, wanted⟩

/-- An attempt leads to the same cursor whatever it is asked to answer. -/
theorem after_attempt_wanted (c : Cursor) (pattern : String) (advance anchored : Bool)
    (wanted wanted' : Wanted) :
    (c.attempt pattern ⟨advance, anchored, wanted⟩).after =
      (c.attempt pattern ⟨advance, anchored, wanted'⟩).after := by
  rcases c.patterns.get_cases pattern with ⟨cause, _, got⟩ | ⟨p, patterns, log, _, got⟩
  · rw [attempt_of_error got, attempt_of_error got]
  · rw [attempt_of_ok got, attempt_of_ok got]

/-! ## Attempts one after another -/

/-- An attempt that does not move does not show in the next one with the same pattern: what it wrote
is written anew, and the pattern that it compiled is the one that would be compiled. -/
theorem attempt_after_look {c : Cursor} {look : MatchOptions} (stays : look.advance = false)
    (pattern : String) (options : MatchOptions) :
    ((c.attempt pattern look).after.attempt pattern options).result =
        (c.attempt pattern options).result ∧
      ((c.attempt pattern look).after.attempt pattern options).after =
        (c.attempt pattern options).after := by
  rcases c.patterns.get_cases pattern with ⟨cause, _, got⟩ | ⟨p, patterns, log, _, got⟩
  · rw [attempt_of_error got look]
    exact ⟨rfl, rfl⟩
  · have looked : (c.attempt pattern look).after =
        { c with matched := p.matched? look.anchored c.rest, patterns } := by
      rw [attempt_of_ok got]
      simp [stays]
    rw [looked, attempt_of_ok (Pattern.Cache.get_again got), attempt_of_ok got]
    exact ⟨rfl, rfl⟩

/-! ## The operations -/

/-- What a look, a step over the match and a step that counts have in common. -/
structure Alike (look step : Op (Option String)) (count : Op Nat) : Prop where
  step_result : step.result = look.result
  count_result : count.result = look.result.map lengthOf
  count_after : count.after = step.after

theorem alike_attempt (c : Cursor) (pattern : String) (anchored : Bool) :
    Alike (answerAs MatchResult.textOr (c.attempt pattern ⟨false, anchored, .text⟩))
      (answerAs MatchResult.textOr (c.attempt pattern ⟨true, anchored, .text⟩))
      (answerAs MatchResult.lengthOr (c.attempt pattern ⟨true, anchored, .length⟩)) := by
  have after := after_attempt_wanted c pattern true anchored .length .text
  rcases attempts_agree c pattern anchored with ⟨e, failed⟩ | ⟨r, gives⟩
  · have look := result_answerAs_of_error (failed false .text).1 MatchResult.textOr
    have step := result_answerAs_of_error (failed true .text).1 MatchResult.textOr
    have count := result_answerAs_of_error (failed true .length).1 MatchResult.lengthOr
    exact ⟨step.trans look.symm, by rw [count, look]; rfl, after⟩
  · -- the answers have the form that was asked for, so what is remembered is not looked at
    have look := result_answerAs_of_ok (gives false .text).result MatchResult.textOr
    have step := result_answerAs_of_ok (gives true .text).result MatchResult.textOr
    have count := result_answerAs_of_ok (gives true .length).result MatchResult.lengthOr
    exact ⟨step.trans look.symm, by rw [count, look]; rfl, after⟩

theorem answerAs_after_look {c : Cursor} {look : MatchOptions} (stays : look.advance = false)
    (pattern : String) (options : MatchOptions) {α : Type}
    (form : Option String → MatchResult → α) :
    (answerAs form ((c.attempt pattern look).after.attempt pattern options)).result =
        (answerAs form (c.attempt pattern options)).result ∧
      (answerAs form ((c.attempt pattern look).after.attempt pattern options)).after =
        (answerAs form (c.attempt pattern options)).after := by
  obtain ⟨result, after⟩ := attempt_after_look (c := c) stays pattern options
  refine ⟨?_, after⟩
  rw [answerAs, answerAs, Effect.result_map, Effect.result_map, result, after]

/-- **The matching operations agree.** From one cursor, attempts that look in the same way all fail
with one error, or all find the same `r` and remember it: they answer `r` or its length as they are
asked, and move behind it or stay. So a step answers what a look does, a step that counts answers its
length and leads to the same place, a look can be repeated, and before a step it makes no difference. -/
theorem matching_family_agrees (c : Cursor) (pattern : String) :
    (∀ anchored,
      (∃ e, ∀ advance wanted,
        (c.attempt pattern ⟨advance, anchored, wanted⟩).result = .error e ∧
          (c.attempt pattern ⟨advance, anchored, wanted⟩).after = c) ∨
      ∃ r, ∀ advance wanted,
        Gives c ⟨advance, anchored, wanted⟩ r (c.attempt pattern ⟨advance, anchored, wanted⟩)) ∧
    Alike (c.check pattern) (c.scan pattern) (c.skip pattern) ∧
    Alike (c.checkUntil pattern) (c.scanUntil pattern) (c.skipUntil pattern) ∧
    (((c.check pattern).after.check pattern).result = (c.check pattern).result ∧
      ((c.check pattern).after.check pattern).after = (c.check pattern).after) ∧
    (((c.checkUntil pattern).after.checkUntil pattern).result = (c.checkUntil pattern).result ∧
      ((c.checkUntil pattern).after.checkUntil pattern).after = (c.checkUntil pattern).after) ∧
    ((c.check pattern).after.scan pattern).result = (c.scan pattern).result ∧
      ((c.check pattern).after.scan pattern).after = (c.scan pattern).after := by
  refine ⟨attempts_agree c pattern, alike_attempt c pattern true, alike_attempt c pattern false,
    ?_, ?_, ?_⟩
  · exact answerAs_after_look rfl pattern (optionsOf .check) MatchResult.textOr
  · exact answerAs_after_look rfl pattern (optionsOf .checkUntil) MatchResult.textOr
  · exact answerAs_after_look rfl pattern (optionsOf .scan) MatchResult.textOr

end TextCursor.Cursor
