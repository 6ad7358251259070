import TextCursor.Cursor
import TextCursor.Proofs.Lookup.Place

/-!
# Characters by their index

An index of a text counts from its start, or from its end if it is negative. `item` and a key that
is a place refuse an index that the text does not have, while a slice moves it into the text. So the
two resolve an index each in their own way; `item_agrees_with_slices` says that they mean the same
character wherever the text has one, and that they part only where it has none.
-/

namespace TextCursor.Cursor

/-- The text has a character at an index, the one at the place `k`. It is found by itself, at the
front of each slice from there, and as a slice of its own. -/
structure CharacterAt (c : Cursor) (i : Int64) (k : Nat) (ch : Char) : Prop where
  place : (k : Int) = if i.toInt < 0 then c.text.length + i.toInt else i.toInt
  found : c.text.toList[k]? = some ch
  item : c.item i = .ok ch
  get : c.get (.place i) = .ok (String.singleton ch)
  begins : ∀ d ≠ 0, ∃ rest, c.slice (some i) none (some d) = .ok (String.singleton ch ++ rest)
  /-- The slice stops at the next index; behind the last character, whose index is `-1`, there is
  none. -/
  alone : c.slice (some i) (if i = -1 then none else some (i + 1)) none = .ok (String.singleton ch)
  /-- The next index does not leave 64 bits. -/
  next : (i + 1).toInt = i.toInt + 1

/-- The text has no character at an index. Looking for it fails with the index and the length of the
text, but slices from there are found. -/
structure NoCharacterAt (c : Cursor) (i : Int64) : Prop where
  item : c.item i = .error (.outOfRange i.toInt c.text.length)
  get : c.get (.place i) = .error (.outOfRange i.toInt c.text.length)
  slices : ∀ stop step, step ≠ some 0 → ∃ s, c.slice (some i) stop step = .ok s

section Indices

variable {c : Cursor} (small : c.text.length < Text.signedLimit) {i : Int64}

include small

theorem exists_characterAt (least : -(c.text.length : Int) ≤ i.toInt)
    (below : i.toInt < c.text.length) : ∃ k ch, CharacterAt c i k ch := by
  obtain ⟨nonneg, inside⟩ := Lookup.resolve_inside_iff.2 ⟨least, below⟩
  obtain ⟨k, place⟩ := Int.eq_ofNat_of_zero_le nonneg
  have short : k < c.text.toList.length := by
    rw [String.length_toList]
    omega
  have found : c.text.toList[k]? = some c.text.toList[k] := List.getElem?_eq_getElem short
  have here := Lookup.charAt_of_inside small place found
  refine ⟨k, c.text.toList[k], ?_, found, here, ?_, ?_, ?_, ?_⟩
  · rw [← place, Lookup.resolve, Int.add_comm]
  · rw [Cursor.get, Lookup.get, here]
    rfl
  · intro d nonzero
    exact Lookup.slice_begins small place found nonzero
  · exact Lookup.slice_stopBehind small place found
  · exact Lookup.toInt_add_one small below

theorem noCharacterAt_of_outside
    (outside : ¬ (-(c.text.length : Int) ≤ i.toInt ∧ i.toInt < c.text.length)) :
    NoCharacterAt c i := by
  have there := Lookup.charAt_of_outside small (mt Lookup.resolve_inside_iff.1 outside)
  refine ⟨there, ?_, ?_⟩
  · rw [Cursor.get, Lookup.get, there]
    rfl
  · intro stop step nonzero
    exact ⟨_, Lookup.slice_eq_everyNth small nonzero (some i) stop⟩

end Indices

/-- **An index means one character.** `item` and `get` answer just for the indices from minus the
length of the text to below its length, and then with the character counted from the start or from
the end. Each slice from there begins with that character, and the one that stops at the next index
is that character alone. For any other index both fail with the index and the length, and no slice
from there fails. The sum that a negative index is resolved by does not leave 64 bits. -/
theorem item_agrees_with_slices (c : Cursor) (small : c.text.length < Text.signedLimit)
    (i : Int64) :
    let inside := -(c.text.length : Int) ≤ i.toInt ∧ i.toInt < c.text.length
    ((∃ ch, c.item i = .ok ch) ↔ inside) ∧
    ((∃ s, c.get (.place i) = .ok s) ↔ inside) ∧
    (inside → ∃ k ch, CharacterAt c i k ch) ∧
    (¬ inside → NoCharacterAt c i) ∧
    (Int64.ofNat c.text.length).toInt = c.text.length ∧
    (i < 0 → (i + Int64.ofNat c.text.length).toInt = i.toInt + c.text.length) := by
  intro inside
  have there (h : inside) : ∃ k ch, CharacterAt c i k ch := exists_characterAt small h.1 h.2
  have missing (h : ¬ inside) : NoCharacterAt c i := noCharacterAt_of_outside small h
  refine ⟨⟨?_, ?_⟩, ⟨?_, ?_⟩, there, missing, Int64.toInt_ofNat_of_lt small, ?_⟩
  · rintro ⟨ch, answered⟩
    by_contra outside
    rw [(missing outside).item] at answered
    cases answered
  · intro h
    obtain ⟨k, ch, given⟩ := there h
    exact ⟨ch, given.item⟩
  · rintro ⟨s, answered⟩
    by_contra outside
    rw [(missing outside).get] at answered
    cases answered
  · intro h
    obtain ⟨k, ch, given⟩ := there h
    exact ⟨String.singleton ch, given.get⟩
  · intro negative
    exact Lookup.toInt_add_length small negative

/-- The last character by its negative index, the one before it, and the least index there is. -/
theorem item_agrees_at_ends :
    let c := new "aéü"
    c.text.length < Text.signedLimit ∧
    (∃ rest, c.slice (some (-1)) none (some Int64.minValue) = .ok (String.singleton 'ü' ++ rest)) ∧
    c.slice (some (-1)) none none = .ok "ü" ∧ c.slice (some (-2)) (some (-1)) none = .ok "é" ∧
    c.item Int64.minValue = .error (.outOfRange (-2 ^ 63) 3) ∧
    ∃ s, c.slice (some Int64.minValue) (some 2) none = .ok s := by
  intro c
  have small : c.text.length < Text.signedLimit := by decide
  have last := (item_agrees_with_slices c small (-1)).2.2.1 (by decide)
  have beforeLast := (item_agrees_with_slices c small (-2)).2.2.1 (by decide)
  have least := (item_agrees_with_slices c small Int64.minValue).2.2.2.1 (by decide)
  obtain ⟨k, ch, last⟩ := last
  obtain ⟨k', ch', beforeLast⟩ := beforeLast
  have two : (k : Int) = 2 := last.place.trans (by decide)
  have one : (k' : Int) = 1 := beforeLast.place.trans (by decide)
  obtain rfl : k = 2 := by omega
  obtain rfl : k' = 1 := by omega
  have atTwo : c.text.toList[2]? = some 'ü' := by decide
  have atOne : c.text.toList[1]? = some 'é' := by decide
  obtain rfl : 'ü' = ch := Option.some.inj (atTwo.symm.trans last.found)
  obtain rfl : 'é' = ch' := Option.some.inj (atOne.symm.trans beforeLast.found)
  have length : c.text.length = 3 := by decide
  refine ⟨small, last.begins _ (by decide), last.alone, beforeLast.alone, ?_,
    least.slices (some 2) none (by decide)⟩
  rw [least.item, length]
  rfl

end TextCursor.Cursor
