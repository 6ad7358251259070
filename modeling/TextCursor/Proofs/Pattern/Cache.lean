import Mathlib.Data.List.Basic
import TextCursor.Pattern.Cache

/-!
# What a cache of patterns holds

`Cache.Holds` ties a cache to the texts that have been looked up in it: it holds exactly those that
are patterns, each once and under its own text. Under it `get` answers what compiling would answer,
and reports that it compiles unless the text is a pattern that was looked up before.
-/

namespace TextCursor.Pattern

/-- Whether a text is a pattern. -/
def compiles (source : String) : Bool :=
  (compile source).isOk

theorem compiles_of_ok {source : String} {p : Pattern} (h : compile source = .ok p) :
    compiles source = true := by
  rw [compiles, h]
  rfl

theorem compiles_of_error {source : String} {cause : SyntaxError}
    (h : compile source = .error cause) : compiles source = false := by
  rw [compiles, h]
  rfl

namespace Cache

/-- The cache holds those of the texts that have been used which are patterns, and nothing else. -/
structure Holds (cache : Cache) (used : List String) : Prop where
  nodup : (cache.entries.map Prod.fst).Nodup
  find?_iff : ∀ key p, cache.find? key = some p ↔ key ∈ used ∧ compile key = .ok p

/-- The events of looking up a text after others: it is compiled unless it is a pattern and has been
used before. -/
def compilingAfter (used : List String) (source : String) : List Event :=
  if source ∈ used ∧ compiles source = true then [] else [.compiling source]

theorem holds_empty : empty.Holds [] where
  nodup := List.nodup_nil
  find?_iff := by
    intro key p
    rw [find?_empty]
    simp

theorem find?_eq_none_iff {cache : Cache} {key : String} :
    cache.find? key = none ↔ key ∉ cache.entries.map Prod.fst := by
  rw [find?, List.lookup_eq_none_iff, List.mem_map]
  constructor
  · rintro absent ⟨entry, mem, rfl⟩
    simpa using absent entry mem
  · intro absent entry mem
    have : key ≠ entry.1 := fun same => absent ⟨entry, mem, same.symm⟩
    simpa using this

/-- A pattern that has just been looked up is found again, and nothing is compiled for it. -/
theorem get_again {cache cache' : Cache} {source : String} {p : Pattern} {log : List Event}
    (h : cache.get source = (.ok (p, cache'), log)) : cache'.get source = (.ok (p, cache'), []) := by
  unfold get at h
  split at h
  · next q found =>
    cases h
    exact get_of_find? found
  · split at h
    · next q _ =>
      cases h
      apply get_of_find?
      rw [find?_insert, if_pos rfl]
    · cases h

/-- One more text that is no pattern, or that is held already, changes nothing. -/
theorem Holds.used_again {cache : Cache} {used : List String} (h : cache.Holds used)
    {source : String} (known : source ∈ used ∨ compiles source = false) :
    cache.Holds (used ++ [source]) where
  nodup := h.nodup
  find?_iff := by
    intro key p
    rw [h.find?_iff, List.mem_append, List.mem_singleton]
    refine ⟨fun ⟨mem, compiled⟩ => ⟨.inl mem, compiled⟩, ?_⟩
    rintro ⟨mem | rfl, compiled⟩
    · exact ⟨mem, compiled⟩
    · rcases known with mem | fails
      · exact ⟨mem, compiled⟩
      · rw [compiles_of_ok compiled] at fails
        cases fails

theorem Holds.insert {cache : Cache} {used : List String} (h : cache.Holds used) {source : String}
    {p : Pattern} (absent : cache.find? source = none) (compiled : compile source = .ok p) :
    (cache.insert source p).Holds (used ++ [source]) where
  nodup := List.nodup_cons.2 ⟨find?_eq_none_iff.1 absent, h.nodup⟩
  find?_iff := by
    intro key q
    rw [find?_insert, List.mem_append, List.mem_singleton]
    by_cases same : key = source
    · subst same
      rw [if_pos rfl, compiled, Option.some.injEq, Except.ok.injEq]
      exact ⟨fun eq => ⟨.inr rfl, eq⟩, fun h => h.2⟩
    · rw [if_neg same, h.find?_iff]
      simp [same]

/-- A pattern is found as it compiles, whether it has been used before or not. -/
theorem Holds.get_of_ok {cache : Cache} {used : List String} (h : cache.Holds used)
    {source : String} {p : Pattern} (compiled : compile source = .ok p) :
    ∃ cache' : Cache, cache.get source = (.ok (p, cache'), compilingAfter used source) ∧
      cache'.Holds (used ++ [source]) := by
  have isPattern := compiles_of_ok compiled
  by_cases mem : source ∈ used
  · refine ⟨cache, ?_, h.used_again (.inl mem)⟩
    rw [get_of_find? ((h.find?_iff source p).2 ⟨mem, compiled⟩), compilingAfter,
      if_pos ⟨mem, isPattern⟩]
  · have absent : cache.find? source = none := by
      cases found : cache.find? source with
      | none => rfl
      | some q => exact absurd ((h.find?_iff source q).1 found).1 mem
    refine ⟨cache.insert source p, ?_, h.insert absent compiled⟩
    rw [get_of_compile absent compiled, compilingAfter, if_neg fun both => mem both.1]

/-- A text that is no pattern is compiled again each time, and never kept. -/
theorem Holds.get_of_error {cache : Cache} {used : List String} (h : cache.Holds used)
    {source : String} {cause : SyntaxError} (fails : compile source = .error cause) :
    cache.get source = (.error (.invalidPattern source cause), compilingAfter used source) ∧
      cache.Holds (used ++ [source]) := by
  have noPattern := compiles_of_error fails
  have absent : cache.find? source = none := by
    cases found : cache.find? source with
    | none => rfl
    | some q =>
      have := ((h.find?_iff source q).1 found).2
      rw [fails] at this
      cases this
  refine ⟨?_, h.used_again (.inr noPattern)⟩
  rw [get_of_not_compile absent fails, compilingAfter,
    if_neg fun both => Bool.false_ne_true (noPattern.symm.trans both.2)]

/-- What is held after fewer texts is held after more. -/
theorem Holds.find?_mono {cache cache' : Cache} {used used' : List String} (h : cache.Holds used)
    (h' : cache'.Holds used') (more : ∀ key ∈ used, key ∈ used') {key : String} {p : Pattern}
    (found : cache.find? key = some p) : cache'.find? key = some p := by
  obtain ⟨mem, compiled⟩ := (h.find?_iff key p).1 found
  exact (h'.find?_iff key p).2 ⟨more key mem, compiled⟩

end Cache

end TextCursor.Pattern
