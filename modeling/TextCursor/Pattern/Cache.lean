import TextCursor.Event
import TextCursor.Pattern
import TextCursor.ScanError

/-!
# Compiled patterns

The patterns that a cursor has compiled, kept so that each is compiled once. A text that is not a
pattern is not kept, and so is tried again each time.
-/

namespace TextCursor.Pattern

/-- Compiled patterns with the texts they were compiled from, the latest first. -/
structure Cache where
  entries : List (String × Pattern)

namespace Cache

/-- No patterns. -/
def empty : Cache := ⟨[]⟩

/-- The pattern that was compiled from a text. -/
def find? (cache : Cache) (source : String) : Option Pattern :=
  cache.entries.lookup source

/-- One more pattern. -/
def insert (cache : Cache) (source : String) (p : Pattern) : Cache :=
  ⟨(source, p) :: cache.entries⟩

/-- The pattern of a text with the patterns kept after that, and the events reported. -/
def get (cache : Cache) (source : String) : Except ScanError (Pattern × Cache) × List Event :=
  match cache.find? source with
  | some p => (.ok (p, cache), [])
  | none =>
    match compile source with
    | .ok p => (.ok (p, cache.insert source p), [.compiling source])
    | .error cause => (.error (.invalidPattern source cause), [.compiling source])

@[simp]
theorem find?_empty (source : String) : empty.find? source = none := rfl

theorem find?_insert (cache : Cache) (source other : String) (p : Pattern) :
    (cache.insert source p).find? other
      = if other = source then some p else cache.find? other := by
  by_cases h : other = source
  · simp [find?, insert, h]
  · have : (other == source) = false := by simpa using h
    simp [find?, insert, List.lookup_cons, h, this]

theorem get_of_find? {cache : Cache} {source : String} {p : Pattern}
    (h : cache.find? source = some p) : cache.get source = (.ok (p, cache), []) := by
  rw [get, h]

theorem get_of_compile {cache : Cache} {source : String} {p : Pattern}
    (h : cache.find? source = none) (compiles : compile source = .ok p) :
    cache.get source = (.ok (p, cache.insert source p), [.compiling source]) := by
  simp only [get, h, compiles]

theorem get_of_not_compile {cache : Cache} {source : String} {cause : SyntaxError}
    (h : cache.find? source = none) (fails : compile source = .error cause) :
    cache.get source = (.error (.invalidPattern source cause), [.compiling source]) := by
  simp only [get, h, fails]

/-- A lookup fails where the text does not compile, and else gives what is kept or compiles. -/
theorem get_cases (cache : Cache) (source : String) :
    (∃ cause, compile source = .error cause ∧
      cache.get source = (.error (.invalidPattern source cause), [.compiling source])) ∨
    (∃ p cache' log, (cache.find? source = some p ∨ compile source = .ok p) ∧
      cache.get source = (.ok (p, cache'), log)) := by
  cases found : cache.find? source with
  | some p => exact .inr ⟨p, cache, [], .inl rfl, get_of_find? found⟩
  | none =>
    cases compiled : compile source with
    | ok p => exact .inr ⟨p, _, _, .inr rfl, get_of_compile found compiled⟩
    | error cause => exact .inl ⟨cause, rfl, get_of_not_compile found compiled⟩

end Cache

end TextCursor.Pattern
