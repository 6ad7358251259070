import TextCursor.Text.Grapheme

/-!
# Backspaces

A line that was typed with backspaces in it stands for what is left: each backspace takes back as
many bytes from the end as are remembered of the grapheme cluster before it. They are remembered in
eight bits, so a cluster of less than 256 bytes is taken back whole, one of 256 bytes not at all, and of
a longer one only what exceeds a multiple of 256 bytes.

Where what exceeds it ends inside a character, a line has no reading, and what is defined here for it
means nothing. That takes a cluster of more than 256 bytes with a backspace behind it.

`applyBackspaces_of_not_mem` says that a line without backspaces stands for itself.
-/

namespace TextCursor.Text

/-- The character that takes back. -/
def backspace : Char := '\x08'

/-- What has been typed so far: the characters that are left, the last first, and for each cluster
among them how many bytes a backspace takes back, the last first. -/
structure Typed where
  kept : List Char
  sizes : List Nat
  deriving DecidableEq, Repr

namespace Typed

/-- The number of bytes that are remembered of a cluster. -/
def sizeLimit : Nat := 256

/-- How many bytes a backspace takes back of a cluster. -/
def sizeOf (cluster : List Char) : Nat :=
  (String.ofList cluster).utf8ByteSize % sizeLimit

/-- Takes so many bytes from the front of a list. The number is that of some whole characters, as it is
for clusters of less than `sizeLimit` bytes; of a character that it splits nothing is taken. -/
def dropBytes (n : Nat) : List Char → List Char
  | [] => []
  | c :: cs => if c.utf8Size ≤ n then dropBytes (n - c.utf8Size) cs else c :: cs

/-- A cluster is typed. With nothing left, a backspace does nothing. -/
def type (t : Typed) (cluster : List Char) : Typed :=
  if cluster = [backspace] then
    match t.sizes with
    | [] => t
    | n :: sizes => ⟨dropBytes n t.kept, sizes⟩
  else ⟨cluster.reverse ++ t.kept, sizeOf cluster :: t.sizes⟩

theorem kept_foldl_type {clusters : List (List Char)} (h : ∀ g ∈ clusters, g ≠ [backspace])
    (t : Typed) : (clusters.foldl type t).kept = clusters.flatten.reverse ++ t.kept := by
  induction clusters generalizing t with
  | nil => rfl
  | cons g gs ih =>
    have hg : g ≠ [backspace] := h g List.mem_cons_self
    rw [List.foldl_cons, ih fun g' hg' => h g' (List.mem_cons_of_mem _ hg')]
    simp [type, hg]

end Typed

/-- What a line stands for that was typed with backspaces. -/
def applyBackspaces (line : List Char) : List Char :=
  ((graphemes line).foldl Typed.type ⟨[], []⟩).kept.reverse

theorem ne_backspace_of_mem_graphemes {line g : List Char} (h : backspace ∉ line)
    (mem : g ∈ graphemes line) : g ≠ [backspace] := by
  rintro rfl
  refine h ?_
  rw [← flatten_graphemes line]
  exact List.mem_flatten.2 ⟨_, mem, List.mem_singleton.2 rfl⟩

/-- A line without backspaces stands for itself. -/
theorem applyBackspaces_of_not_mem {line : List Char} (h : backspace ∉ line) :
    applyBackspaces line = line := by
  have clusters : ∀ g ∈ graphemes line, g ≠ [backspace] :=
    fun g mem => ne_backspace_of_mem_graphemes h mem
  simp [applyBackspaces, Typed.kept_foldl_type clusters, flatten_graphemes]

end TextCursor.Text
