import TextCursor.Proofs.Key.Grammar
import TextCursor.Proofs.Lookup.Place

/-!
# The written form of a key

A key has many spellings, and its written form is the canonical one: it is a spelling of the key,
what it is read as is written in the same way again, and no spelling of the key is shorter
(`Spelling.length_toText_le`). `written_form_is_canonical` says this, and what follows from it
wherever a written form takes the place of a key: in a look-up, and in the error that names a slice
with step zero.
-/

namespace TextCursor.Key

theorem toText_injective : Function.Injective toText := by
  intro k k' same
  have read := ofText?_toText k
  rw [same, ofText?_toText] at read
  exact (Option.some.inj read).symm

/-! ## No spelling is shorter -/

theorem Bound.length_showBound_le {part : List Char} {b : Option Int64} (h : Bound part b) :
    (showBound b).length ≤ part.length := by
  cases h with
  | absent _ => exact Nat.zero_le _
  | number spelled least greatest =>
    have value := Int64.toInt_ofInt_of_le least (by omega)
    rw [showBound, Text.signed, value]
    exact Nat.le_trans spelled.length_le (Text.length_trim_le part)

/-- No spelling of a key is shorter than its written form, which leaves out the colon before an
absent step. -/
theorem Spelling.length_toText_le {cs : List Char} {k : Key} (h : Spelling cs k) :
    k.toText.length ≤ cs.length := by
  have colon : (":" : String).length = 1 := rfl
  obtain ⟨-, joined, given, key⟩ := h
  subst joined
  cases key with
  | place i =>
    rcases given with _ | ⟨only, ⟨⟩⟩
    have alone := only.length_showBound_le
    rwa [List.intercalate_singleton]
  | slice start stop =>
    rcases given with _ | ⟨first, _ | ⟨second, ⟨⟩⟩⟩
    have before := first.length_showBound_le
    have behind := second.length_showBound_le
    simp [toText, colon]
    omega
  | stepped start stop step =>
    rcases given with _ | ⟨first, _ | ⟨second, _ | ⟨third, ⟨⟩⟩⟩⟩
    have before := first.length_showBound_le
    have between := second.length_showBound_le
    have behind := third.length_showBound_le
    cases step with
    | none =>
      simp [toText, colon]
      omega
    | some stride =>
      simp [toText, colon]
      omega

/-! ## The canonical spelling -/

/-- **The written form of a key is its canonical spelling.** Every key is read back from it, so no
two keys share one; whatever a text is read as, its written form is read as the same key, is written
in the same way again and is no longer than the text. A cursor therefore answers the written form of
a key as it answers the key, and the error for a step of zero names a text that is read as the key
that was looked up. -/
theorem written_form_is_canonical :
    (∀ k, ofText? k.toText = some k) ∧
    Function.Injective toText ∧
    (∀ s k, ofText? s = some k →
      ofText? k.toText = ofText? s ∧ (ofText? k.toText).map toText = some k.toText ∧
        k.toText.length ≤ s.length) ∧
    (∀ k text, (ofText? k.toText).map (Lookup.get text) = some (Lookup.get text k)) ∧
    (∀ k (c : Cursor), c.perform (.get k.toText) = .ofExcept ((c.get k).map .text) c) ∧
    (∀ text start stop, Lookup.get text (.slice start stop (some 0)) =
      .error (.zeroStep (.slice start stop (some 0)))) ∧
    (∀ text k k', Lookup.get text k = .error (.zeroStep k') →
      ∃ shown, (ScanError.zeroStep k').message =
          "Invalid index: " ++ shown ++ ": slice step cannot be zero" ∧
        ofText? shown = some k) := by
  refine ⟨ofText?_toText, toText_injective, ?_, ?_, ?_, ?_, ?_⟩
  · intro s k read
    have short := (ofText?_eq_some_iff.1 read).length_toText_le
    rw [String.length_toList] at short
    rw [ofText?_toText, read]
    exact ⟨rfl, rfl, short⟩
  · intro k text
    rw [ofText?_toText]
    rfl
  · intro k c
    rw [Cursor.perform, ofText?_toText]
  · intro text start stop
    exact Lookup.get_eq_zeroStep_iff.2 ⟨rfl, start, stop, rfl⟩
  · intro text k k' refused
    obtain ⟨rfl, -⟩ := Lookup.get_eq_zeroStep_iff.1 refused
    exact ⟨k'.toText, rfl, ofText?_toText k'⟩

/-- A slice spelled with blanks, signs and zeros, whose written form has none of these and is named
by the error that its step of zero gives. -/
theorem canonical_of_padded_zero_step :
    ofText? " 01 : -0:+00" = some (.slice (some 1) (some 0) (some 0)) ∧
    ofText? "1:0:0" = ofText? " 01 : -0:+00" ∧
    Lookup.get "abc" (.slice (some 1) (some 0) (some 0)) =
      .error (.zeroStep (.slice (some 1) (some 0) (some 0))) ∧
    ∃ shown, (ScanError.zeroStep (.slice (some 1) (some 0) (some 0))).message =
        "Invalid index: " ++ shown ++ ": slice step cannot be zero" ∧
      ofText? shown = some (.slice (some 1) (some 0) (some 0)) := by
  have read : ofText? " 01 : -0:+00" = some (.slice (some 1) (some 0) (some 0)) := by decide +kernel
  obtain ⟨-, -, canonical, -, -, zero, named⟩ := written_form_is_canonical
  exact ⟨read, (canonical _ _ read).1, zero _ _ _, named "abc" _ _ (zero _ _ _)⟩

end TextCursor.Key
