import TextCursor.Proofs.Cursor.Invariant

/-!
# Restoring from any snapshot

A snapshot may have been made by hand: its position may lie behind the end of its text, and what it
remembers as matched need not have anything to do with the text. `restored_where_inside` says that the
position alone decides whether there is a cursor, at every position up to the end and none behind it;
that the cursor shows what the snapshot says, and can step back over any remembered match; and which
error there is otherwise, under which an old cursor stays as it is.
-/

namespace TextCursor.Snapshot

open Cursor (newAt restore)

/-- The error at a position behind the end of a text. A position that signed numbers of 64 bits do not
reach is shown as the greatest of these. -/
def outside (text : String) (position : Nat) : ScanError :=
  .outOfRange (min position 9223372036854775807) text.length

/-! ## Which positions a text has -/

theorem newAt_eq_restore (text : String) (position : Nat) :
    newAt text position = restore ⟨text, position, none⟩ := by
  rw [Cursor.newAt_eq, Cursor.restore_eq]
  rfl

theorem exists_restore_iff {s : Snapshot} :
    (∃ c, restore s = .ok c) ↔ s.position ≤ s.text.length := by
  rw [Cursor.restore_eq]
  constructor
  · rintro ⟨c, restored⟩
    by_contra behind
    rw [if_neg behind] at restored
    cases restored
  · intro inside
    rw [if_pos inside]
    exact ⟨_, rfl⟩

theorem restore_of_behind {s : Snapshot} (behind : s.text.length < s.position) :
    restore s = .error (outside s.text s.position) := by
  rw [Cursor.restore_eq, if_neg (Nat.not_le.2 behind)]
  rfl

/-- A failure to restore leaves the old cursor, and reports nothing. -/
theorem perform_restore_of_behind {s : Snapshot} (behind : s.text.length < s.position)
    (c : Cursor) : c.perform (.restore s) = .fail (outside s.text s.position) c := by
  rw [Cursor.perform, restore_of_behind behind]
  rfl

/-! ## What is restored -/

theorem snapshot_of_restore {s : Snapshot} {c : Cursor} (h : restore s = .ok c) :
    c.snapshot = s := by
  rw [Cursor.restore_eq] at h
  split at h
  · cases h
    rfl
  · cases h

theorem rest_of_restore {s : Snapshot} {c : Cursor} (h : restore s = .ok c) :
    c.rest = String.ofList (s.text.toList.drop s.position) := by
  have wf := Cursor.wf_restore h
  rw [← snapshot_of_restore h, ← String.toList_inj, wf.toList_rest, String.toList_ofList]
  rfl

/-- A step back from a restored cursor stays in the text, whatever is remembered as matched: it leads
back by the length of that, or to the start. -/
theorem unscan_of_restore {s : Snapshot} {c : Cursor} (h : restore s = .ok c) :
    c.unscan.result = .ok () ∧ c.unscan.after.text = s.text ∧
      c.unscan.after.position = s.position - (s.lastMatch.getD "").length ∧
      c.unscan.after.Consistent := by
  have consistent := (Cursor.wf_restore h).unscan.consistent
  have shown := snapshot_of_restore h
  subst shown
  show _ ∧ _ = c.text ∧ _ = c.position - (c.matched.getD "").length ∧ _
  rw [Cursor.unscan] at consistent ⊢
  cases register : c.matched with
  | none =>
    rw [register] at consistent
    exact ⟨rfl, rfl, rfl, consistent⟩
  | some m =>
    rw [register] at consistent
    exact ⟨rfl, rfl, rfl, consistent⟩

/-- **A cursor is restored from just the snapshots whose position their text has.** A cursor can be made
at each position up to the end of a text, and at none behind it. The restored one gives the snapshot
again, has the text from the position on ahead of it, and can step back whatever it remembers as matched.
For any other snapshot the error names the position and the length of the text, and a cursor that was to
be replaced stays as it is. -/
theorem restored_where_inside :
    (∀ s : Snapshot, (∃ c, restore s = .ok c) ↔ s.position ≤ s.text.length) ∧
    (∀ text position, (∃ c, newAt text position = .ok c) ↔ position ≤ text.length) ∧
    (∀ text position c, newAt text position = .ok c → c.snapshot = ⟨text, position, none⟩) ∧
    (∀ (s : Snapshot) c, restore s = .ok c →
      c.snapshot = s ∧ c.rest = String.ofList (s.text.toList.drop s.position) ∧
      c.unscan.result = .ok () ∧ c.unscan.after.text = s.text ∧
      c.unscan.after.position = s.position - (s.lastMatch.getD "").length ∧
      c.unscan.after.Consistent) ∧
    ∀ s : Snapshot, s.text.length < s.position →
      restore s = .error (outside s.text s.position) ∧
      newAt s.text s.position = .error (outside s.text s.position) ∧
      ∀ c : Cursor, c.perform (.restore s) = .fail (outside s.text s.position) c := by
  refine ⟨fun _ => exists_restore_iff, ?_, ?_, ?_, ?_⟩
  · intro text position
    rw [newAt_eq_restore]
    exact exists_restore_iff
  · intro text position c made
    rw [newAt_eq_restore] at made
    exact snapshot_of_restore made
  · intro s c restored
    exact ⟨snapshot_of_restore restored, rest_of_restore restored, unscan_of_restore restored⟩
  · intro s behind
    refine ⟨restore_of_behind behind, ?_, perform_restore_of_behind behind⟩
    rw [newAt_eq_restore]
    exact restore_of_behind behind

/-- At the end of a text of characters of two bytes, where a match that is longer than the text is
remembered; one further, where the text still has bytes; and at the greatest position of 64 bits. -/
theorem restored_at_end_of_accented :
    let s : Snapshot := ⟨"éü", 2, some "zzz"⟩
    let behind : Snapshot := ⟨"éü", 3, none⟩
    let greatest : Snapshot := ⟨"éü", 18446744073709551615, some "é"⟩
    (∃ c, restore s = .ok c ∧ c.snapshot = s ∧ c.rest = String.ofList ("éü".toList.drop 2) ∧
      c.unscan.after.position = 2 - "zzz".length ∧ c.unscan.after.Consistent ∧
      c.perform (.restore behind) = .fail (.outOfRange 3 2) c) ∧
    "éü".length < 3 ∧ restore behind = .error (.outOfRange 3 2) ∧
    "éü".length < 18446744073709551615 ∧
    restore greatest = .error (.outOfRange 9223372036854775807 2) := by
  intro s behind greatest
  obtain ⟨inside, -, -, faithful, failing⟩ := restored_where_inside
  obtain ⟨c, restored⟩ := (inside s).2 (by decide)
  obtain ⟨shown, rest, -, -, position, consistent⟩ := faithful s c restored
  have error : outside behind.text behind.position = .outOfRange 3 2 := by decide +kernel
  have error' : outside greatest.text greatest.position = .outOfRange 9223372036854775807 2 := by
    decide +kernel
  obtain ⟨failed, -, stays⟩ := failing behind (by decide)
  obtain ⟨failed', -, -⟩ := failing greatest (by decide)
  rw [error] at failed stays
  rw [error'] at failed'
  exact ⟨⟨c, restored, shown, rest, position, consistent, stays c⟩, by decide, failed, by decide,
    failed'⟩

end TextCursor.Snapshot
