import TextCursor.Cursor

/-!
# Snapshots

What a cursor shows of itself, without its compiled patterns. A cursor can be restored from a
snapshot, in which the remembered match need not have anything to do with the text.
-/

namespace TextCursor

/-- The text, position and remembered match of a cursor. -/
structure Snapshot where
  text : String
  position : Nat
  lastMatch : Option String
  deriving DecidableEq, Repr

namespace Cursor

/-- The snapshot of a cursor. -/
def snapshot (c : Cursor) : Snapshot :=
  ⟨c.text, c.position, c.matched⟩

/-- The cursor that a snapshot describes, if its text has its position. -/
def restore (s : Snapshot) : Except ScanError Cursor :=
  (newAt s.text s.position).map fun c => { c with matched := s.lastMatch }

end Cursor

end TextCursor
