import Mathlib.Data.String.Basic

/-!
# Offsets of characters

The offset in bytes of the place behind the first so many characters of a text, and what the
operations on offsets do there: what is extracted from such an offset on, where a step back leads,
and what is added for the characters that follow. All of them stay on the borders between
characters, so no operation on texts is ever asked for half a character.
-/

namespace TextCursor.Text

open String

/-- The offset behind the first so many characters of a text. -/
def offsetOf (text : String) (n : Nat) : Pos.Raw :=
  ⟨utf8Len (text.toList.take n)⟩

theorem byteIdx_offsetOf (text : String) (n : Nat) :
    (offsetOf text n).byteIdx = (String.ofList (text.toList.take n)).utf8ByteSize := by
  rw [offsetOf, utf8ByteSize_ofList]

theorem offsetOf_isValid (text : String) (n : Nat) : (offsetOf text n).IsValid text :=
  Pos.Raw.isValid_iff_exists_take_toList.2 ⟨n, byteIdx_offsetOf text n⟩

/-- The characters before an offset and those behind it take all bytes of the text. -/
theorem offsetOf_add_utf8Len_drop (text : String) (n : Nat) :
    (offsetOf text n).byteIdx + utf8Len (text.toList.drop n) = text.utf8ByteSize := by
  rw [← utf8Len_toList, ← List.take_append_drop n text.toList, utf8Len_append,
    List.take_append_drop, offsetOf]

theorem offsetOf_eq_rawEndPos_iff {text : String} {n : Nat} (h : n ≤ text.length) :
    offsetOf text n = text.rawEndPos ↔ n = text.length := by
  have total := offsetOf_add_utf8Len_drop text n
  rw [Pos.Raw.ext_iff, byteIdx_rawEndPos]
  constructor
  · intro same
    have nothing : text.toList.drop n = [] := utf8Len_eq_zero.1 (by omega)
    have : text.length ≤ n := by rwa [List.drop_eq_nil_iff, length_toList] at nothing
    omega
  · intro same
    have nothing : text.toList.drop n = [] := by rw [same, ← length_toList, List.drop_length]
    rw [nothing, utf8Len_nil] at total
    omega

/-- What lies behind an offset is the text without its first characters. -/
theorem extract_offsetOf (text : String) (n : Nat) :
    Pos.Raw.extract text (offsetOf text n) text.rawEndPos
      = String.ofList (text.toList.drop n) := by
  have h := extract_of_valid (text.toList.take n) (text.toList.drop n) []
  rw [List.append_nil, List.take_append_drop, ofList_toList, ← utf8Len_append,
    List.take_append_drop, utf8Len_toList] at h
  exact h

/-- A step back from an offset leads to the one before it, and stays at the start of the text. -/
theorem prev_offsetOf {text : String} {n : Nat} (h : n ≤ text.length) :
    (offsetOf text n).prev text = offsetOf text (n - 1) := by
  have back := prev_of_valid' (text.toList.take n) (text.toList.drop n)
  rw [List.take_append_drop, ofList_toList] at back
  rw [offsetOf, back, List.dropLast_eq_take, List.take_take, List.length_take, length_toList,
    Nat.min_eq_left h, Nat.min_eq_left (Nat.sub_le n 1), offsetOf]

/-- What is added to the end of a text does not move the offsets in it. -/
theorem offsetOf_append {text : String} {n : Nat} (h : n ≤ text.length) (suffix : String) :
    offsetOf (text ++ suffix) n = offsetOf text n := by
  rw [offsetOf, toList_append, List.take_append_of_le_length (length_toList ▸ h), offsetOf]

/-- The offset behind a piece of text is further by the bytes of the piece. -/
theorem offsetOf_add {text piece : String} {n : Nat} {rest : List Char}
    (h : text.toList.drop n = piece.toList ++ rest) :
    offsetOf text (n + piece.length) = offsetOf text n + piece := by
  have taken : text.toList.take (n + piece.length) = text.toList.take n ++ piece.toList := by
    rw [List.take_add, h, List.take_left' length_toList]
  rw [Pos.Raw.ext_iff, Pos.Raw.byteIdx_add_string, offsetOf, offsetOf, taken, utf8Len_append,
    utf8Len_toList]

/-- No text has more characters than bytes. -/
theorem length_le_utf8ByteSize (text : String) : text.length ≤ text.utf8ByteSize := by
  rw [← length_toList, ← utf8Len_toList]
  induction text.toList with
  | nil => rfl
  | cons c cs ih =>
    have := c.utf8Size_pos
    rw [List.length_cons, utf8Len_cons]
    omega

end TextCursor.Text
