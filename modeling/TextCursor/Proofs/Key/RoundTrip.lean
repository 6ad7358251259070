import TextCursor.Key
import TextCursor.Proofs.Text.Numeral

/-!
# Keys are read back

Every key is read back from its written form: `ofText?_toText`. A written form is numerals and
nothing with colons between them; the colons separate them again (`splitColons_append`), and each
part is the bound that it was written for (`readBound?_showBound`).
-/

namespace TextCursor.Key

open Text (isNumeralChar)

/-! ## Parts between colons -/

theorem splitColons_of_not_mem {part : List Char} (h : ':' ∉ part) : splitColons part = [part] := by
  induction part with
  | nil => rfl
  | cons c cs ih =>
    rw [List.mem_cons, not_or] at h
    rw [splitColons, if_neg (Ne.symm h.1), ih h.2]

theorem splitColons_append {part : List Char} (h : ':' ∉ part) (rest : List Char) :
    splitColons (part ++ ':' :: rest) = part :: splitColons rest := by
  induction part with
  | nil => rfl
  | cons c cs ih =>
    rw [List.mem_cons, not_or] at h
    rw [List.cons_append, splitColons, if_neg (Ne.symm h.1), ih h.2]

/-! ## Bounds -/

theorem isNumeralChar_of_mem_showBound {b : Option Int64} {c : Char}
    (h : c ∈ (showBound b).toList) : isNumeralChar c = true := by
  cases b with
  | none => cases h
  | some i => exact Text.isNumeralChar_of_mem_signed h

theorem colon_not_mem_showBound (b : Option Int64) : ':' ∉ (showBound b).toList := by
  intro colon
  cases isNumeralChar_of_mem_showBound colon

/-- A text of numerals and colons is left as it is by trimming. -/
theorem trim_of_isNumeralChar {cs : List Char} (h : ∀ c ∈ cs, c = ':' ∨ isNumeralChar c = true) :
    Text.trim cs = cs := by
  refine Text.trim_of_not_blank fun c mem => ?_
  rcases h c mem with rfl | numeral
  · rfl
  · exact Text.isBlank_of_isNumeralChar numeral

theorem readBound?_showBound (b : Option Int64) : readBound? (showBound b).toList = some b := by
  have trimmed : Text.trim (showBound b).toList = (showBound b).toList :=
    trim_of_isNumeralChar fun _ mem => .inr (isNumeralChar_of_mem_showBound mem)
  rw [readBound?, trimmed]
  cases b with
  | none => rfl
  | some i =>
    have number := Text.readSigned?_signed i
    rw [showBound]
    cases chars : (Text.signed i).toList with
    | nil => exact absurd chars (Text.signed_ne_nil i)
    | cons c cs =>
      rw [chars] at number
      show (Text.readSigned? (c :: cs)).map some = _
      rw [number]
      rfl

/-! ## Keys -/

/-- The bounds of a key as they are written, in their order. -/
def bounds : Key → List (Option Int64)
  | .place i => [some i]
  | .slice start stop none => [start, stop]
  | .slice start stop (some step) => [start, stop, some step]

theorem splitColons_toText (k : Key) :
    splitColons k.toText.toList = k.bounds.map fun b => (showBound b).toList := by
  have colon := colon_not_mem_showBound
  rcases k with i | ⟨start, stop, _ | step⟩
  · exact splitColons_of_not_mem (colon (some i))
  · have written : (slice start stop none).toText.toList =
        (showBound start).toList ++ ':' :: (showBound stop).toList := by simp [toText]
    rw [written, splitColons_append (colon start), splitColons_of_not_mem (colon stop)]
    rfl
  · have written : (slice start stop (some step)).toText.toList =
        (showBound start).toList ++ ':' :: ((showBound stop).toList
          ++ ':' :: (showBound (some step)).toList) := by simp [toText]
    rw [written, splitColons_append (colon start), splitColons_append (colon stop),
      splitColons_of_not_mem (colon (some step))]
    rfl

theorem mem_toText {k : Key} {c : Char} (h : c ∈ k.toText.toList) :
    c = ':' ∨ isNumeralChar c = true := by
  rcases k with i | ⟨start, stop, _ | step⟩ <;>
    simp only [toText, String.toList_append, List.mem_append] at h
  · exact .inr (Text.isNumeralChar_of_mem_signed h)
  · rcases h with (h | h) | h
    · exact .inr (isNumeralChar_of_mem_showBound h)
    · exact .inl (List.mem_singleton.1 h)
    · exact .inr (isNumeralChar_of_mem_showBound h)
  · rcases h with (((h | h) | h) | h) | h
    · exact .inr (isNumeralChar_of_mem_showBound h)
    · exact .inl (List.mem_singleton.1 h)
    · exact .inr (isNumeralChar_of_mem_showBound h)
    · exact .inl (List.mem_singleton.1 h)
    · exact .inr (isNumeralChar_of_mem_showBound h)

/-- Every key is read back from its written form. -/
theorem ofText?_toText (k : Key) : ofText? k.toText = some k := by
  rw [ofText?, trim_of_isNumeralChar fun _ => mem_toText, splitColons_toText]
  have bound := readBound?_showBound
  rcases k with i | ⟨start, stop, _ | step⟩
  · simp [bounds, bound]
  · simp [bounds, bound]
  · simp [bounds, bound]

end TextCursor.Key
