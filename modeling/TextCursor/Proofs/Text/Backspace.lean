import Mathlib.Data.String.Basic
import TextCursor.Text.Backspace

/-!
# What backspaces leave

`takeBack` is what is left of a line when each backspace takes back the cluster before it, if there is
one. A line whose clusters take less than 256 bytes each stands for just that
(`applyBackspaces_eq_takeBack`): what is remembered are then the sizes of the clusters that are left
(`Remembers`), and by its size the last of them is found at the end of the line
(`dropBytes_utf8Len_append`). A backspace is a cluster of its own, so none is left
(`backspace_not_mem_takeBack`).

Of any line, however long its clusters are, backspaces leave some characters and bring none
(`mem_of_mem_applyBackspaces`).
-/

namespace TextCursor.Text

open String (utf8Len)

/-! ## Taking back clusters -/

/-- A cluster is typed behind those that are left; a backspace takes back the last of them. -/
def typeCluster (left : List (List Char)) (cluster : List Char) : List (List Char) :=
  if cluster = [backspace] then left.dropLast else left ++ [cluster]

/-- The clusters that are left of a line. -/
def clustersLeft (line : List Char) : List (List Char) :=
  (graphemes line).foldl typeCluster []

/-- What is left of a line when each backspace takes back the cluster before it. -/
def takeBack (line : List Char) : List Char :=
  (clustersLeft line).flatten

/-- A line of clusters whose sizes can all be remembered. -/
def ShortClusters (line : List Char) : Prop :=
  ∀ cluster ∈ graphemes line, utf8Len cluster < Typed.sizeLimit

instance (line : List Char) : Decidable (ShortClusters line) :=
  List.decidableBAll (fun cluster => utf8Len cluster < Typed.sizeLimit) (graphemes line)

theorem foldl_typeCluster {clusters : List (List Char)} (h : ∀ g ∈ clusters, g ≠ [backspace])
    (left : List (List Char)) : clusters.foldl typeCluster left = left ++ clusters := by
  induction clusters generalizing left with
  | nil => exact (List.append_nil left).symm
  | cons g gs ih =>
    have typed : typeCluster left g = left ++ [g] := if_neg (h g List.mem_cons_self)
    rw [List.foldl_cons, typed, ih fun g' mem => h g' (List.mem_cons_of_mem _ mem),
      List.append_assoc, List.singleton_append]

/-- Of a line without backspaces all is left. -/
theorem takeBack_of_not_mem {line : List Char} (h : backspace ∉ line) : takeBack line = line := by
  rw [takeBack, clustersLeft,
    foldl_typeCluster fun g mem => ne_backspace_of_mem_graphemes h mem, List.nil_append,
    flatten_graphemes]

theorem mem_of_mem_foldl_typeCluster {clusters left : List (List Char)} {g : List Char}
    (h : g ∈ clusters.foldl typeCluster left) :
    g ∈ left ∨ g ∈ clusters ∧ g ≠ [backspace] := by
  induction clusters generalizing left with
  | nil => exact .inl h
  | cons g' gs ih =>
    rcases ih h with mem | ⟨mem, ne⟩
    · rw [typeCluster] at mem
      split at mem
      · exact .inl ((List.dropLast_sublist left).subset mem)
      · next ne =>
        rcases List.mem_append.1 mem with mem | mem
        · exact .inl mem
        · rw [List.mem_singleton.1 mem]
          exact .inr ⟨List.mem_cons_self, ne⟩
    · exact .inr ⟨List.mem_cons_of_mem _ mem, ne⟩

/-- Each backspace takes back and is gone: none is left in the line. -/
theorem backspace_not_mem_takeBack (line : List Char) : backspace ∉ takeBack line := by
  intro mem
  obtain ⟨g, left, mem⟩ := List.mem_flatten.1 mem
  rcases mem_of_mem_foldl_typeCluster left with left | ⟨typed, ne⟩
  · cases left
  · exact ne (eq_singleton_of_control (by decide) typed mem)

/-! ## Clusters by their size -/

/-- As many bytes as some characters take are taken as those characters. -/
theorem dropBytes_utf8Len_append (cs rest : List Char) :
    Typed.dropBytes (utf8Len cs) (cs ++ rest) = rest := by
  induction cs with
  | nil =>
    cases rest with
    | nil => rfl
    | cons c rest =>
      have some : ¬ c.utf8Size ≤ utf8Len [] := Nat.not_le.2 c.utf8Size_pos
      rw [List.nil_append, Typed.dropBytes, if_neg some]
  | cons c cs ih =>
    have fits : c.utf8Size ≤ utf8Len (c :: cs) := by
      rw [String.utf8Len_cons]
      exact Nat.le_add_left _ _
    rw [List.cons_append, Typed.dropBytes, if_pos fits, String.utf8Len_cons, Nat.add_sub_cancel, ih]

/-- What is remembered of a line is what the clusters `left` take, which are left of it. -/
structure Remembers (t : Typed) (left : List (List Char)) : Prop where
  kept_eq : t.kept = left.flatten.reverse
  sizes_eq : t.sizes = (left.map utf8Len).reverse

/-- One step: a cluster that is not too long is remembered with its size, and a backspace takes back the
last cluster that is left. -/
theorem Remembers.type {t : Typed} {left : List (List Char)} (h : Remembers t left)
    {cluster : List Char} (short : utf8Len cluster < Typed.sizeLimit) :
    Remembers (t.type cluster) (typeCluster left cluster) := by
  rw [Typed.type, typeCluster]
  by_cases back : cluster = [backspace]
  · rw [if_pos back, if_pos back]
    rcases List.eq_nil_or_concat' left with rfl | ⟨init, last, rfl⟩
    · rw [h.sizes_eq]
      exact h
    · -- the last cluster ends the line, and its size is the last that is remembered
      have kept : t.kept = last.reverse ++ init.flatten.reverse := by
        rw [h.kept_eq]
        simp
      have sizes : t.sizes = utf8Len last.reverse :: (init.map utf8Len).reverse := by
        rw [h.sizes_eq, String.utf8Len_reverse]
        simp
      rw [kept, sizes, List.dropLast_concat]
      exact ⟨dropBytes_utf8Len_append last.reverse init.flatten.reverse, rfl⟩
  · have whole : Typed.sizeOf cluster = utf8Len cluster := by
      rw [Typed.sizeOf, String.utf8ByteSize_ofList, Nat.mod_eq_of_lt short]
    rw [if_neg back, if_neg back, whole]
    constructor
    · simp [h.kept_eq]
    · simp [h.sizes_eq]

theorem Remembers.foldl_type {clusters : List (List Char)}
    (short : ∀ g ∈ clusters, utf8Len g < Typed.sizeLimit) {t : Typed} {left : List (List Char)}
    (h : Remembers t left) :
    Remembers (clusters.foldl Typed.type t) (clusters.foldl typeCluster left) := by
  induction clusters generalizing t left with
  | nil => exact h
  | cons g gs ih =>
    have step := h.type (short g List.mem_cons_self)
    exact ih (fun g' mem => short g' (List.mem_cons_of_mem _ mem)) step

/-- A line of clusters that are not too long stands for what is left when each backspace takes back
the cluster before it. -/
theorem applyBackspaces_eq_takeBack {line : List Char} (short : ShortClusters line) :
    applyBackspaces line = takeBack line := by
  have start : Remembers ⟨[], []⟩ [] := ⟨rfl, rfl⟩
  rw [applyBackspaces, (start.foldl_type short).kept_eq, List.reverse_reverse]
  rfl

/-- A backspace with nothing before it does nothing, and two characters of one cluster go at once. -/
example : applyBackspaces "a\x08\x08b\r\n\x08c".toList = ['b', 'c'] := by
  decide +kernel

/-! ## Characters -/

theorem mem_of_mem_dropBytes {n : Nat} {cs : List Char} {c : Char}
    (h : c ∈ Typed.dropBytes n cs) : c ∈ cs := by
  induction cs generalizing n with
  | nil => exact h
  | cons d ds ih =>
    rw [Typed.dropBytes] at h
    split at h
    · exact List.mem_cons_of_mem d (ih h)
    · exact h

theorem mem_of_mem_kept_type {t : Typed} {cluster : List Char} {c : Char}
    (h : c ∈ (t.type cluster).kept) : c ∈ cluster ∨ c ∈ t.kept := by
  rw [Typed.type] at h
  split at h
  · split at h
    · exact .inr h
    · exact .inr (mem_of_mem_dropBytes h)
  · rw [List.mem_append, List.mem_reverse] at h
    exact h

theorem mem_of_mem_kept_foldl_type {clusters : List (List Char)} {t : Typed} {c : Char}
    (h : c ∈ (clusters.foldl Typed.type t).kept) : c ∈ clusters.flatten ∨ c ∈ t.kept := by
  induction clusters generalizing t with
  | nil => exact .inr h
  | cons g gs ih =>
    rw [List.flatten_cons, List.mem_append]
    rcases ih h with mem | mem
    · exact .inl (.inr mem)
    · rcases mem_of_mem_kept_type mem with mem | mem
      · exact .inl (.inl mem)
      · exact .inr mem

/-- Backspaces take characters away and bring none. -/
theorem mem_of_mem_applyBackspaces {line : List Char} {c : Char}
    (h : c ∈ applyBackspaces line) : c ∈ line := by
  rw [applyBackspaces, List.mem_reverse] at h
  rcases mem_of_mem_kept_foldl_type h with mem | mem
  · rwa [flatten_graphemes] at mem
  · cases mem

end TextCursor.Text
