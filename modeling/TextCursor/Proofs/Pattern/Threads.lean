import Mathlib.Data.List.Basic
import TextCursor.Pattern.Search

/-!
# Threads

How the places are found that are reached at a position. `Follows` is the search for them without fuel:
it visits the places on a stack and those that they lead to, each once. The fuel of `follow` is enough
for it (`follows_follow`), so what is proved of `Follows` holds of the program:

* a place that has been visited has been followed: all that it leads to has been visited, and it is a
  thread if it waits (`Follows.followed`);
* threads are only ever added behind those that are there (`threadsFrom_append`).
-/

namespace TextCursor.Pattern.Program

variable {p : Program} {before after : Option Char}

/-! ## Ways without a character -/

/-- The places that a place leads to without taking a character, in order of preference. -/
def ways (p : Program) (before after : Option Char) (place : Nat) : List Nat :=
  match p.code[place]? with
  | some (.split first second) => [first, second]
  | some (.look l next) => if l.holds before after then [next] else []
  | _ => []

/-- Whether a place waits for a character or reports a match. -/
def waits (p : Program) (place : Nat) : Bool :=
  match p.code[place]? with
  | some (.split _ _) | some (.look _ _) => false
  | _ => true

/-- Whether a place has been visited. One that is not in the program counts as visited. -/
def Reached.has (r : Reached) (place : Nat) : Bool :=
  r.visited.getD place true

/-- One more visited place, which is a thread if it waits. -/
def visit (p : Program) (r : Reached) (place : Nat) : Reached :=
  ⟨r.visited.setIfInBounds place true, if p.waits place then place :: r.threads else r.threads⟩

theorem length_ways_le (before after : Option Char) (place : Nat) :
    (p.ways before after place).length ≤ 2 := by
  unfold ways
  split
  · simp
  · split <;> simp
  · simp

theorem lt_of_mem_ways {place next : Nat} (h : next ∈ p.ways before after place) :
    place < p.code.size := by
  by_contra outside
  rw [ways, Array.getElem?_eq_none (by omega)] at h
  cases h

theorem waits_of_reports {place : Nat} (h : p.reports place = true) : p.waits place = true := by
  unfold reports at h
  unfold waits
  split at h
  · next found => rw [found]
  · cases h

theorem ways_of_waits {place : Nat} (h : p.waits place = true) :
    p.ways before after place = [] := by
  unfold waits at h
  unfold ways
  split at h
  · cases h
  · cases h
  · rfl

theorem follow_cons (fuel place : Nat) (stack : List Nat) (r : Reached) :
    p.follow before after (fuel + 1) (place :: stack) r =
      if r.has place then p.follow before after fuel stack r
      else p.follow before after fuel (p.ways before after place ++ stack) (p.visit r place) := by
  rw [follow]
  unfold Reached.has visit ways waits
  split
  · rfl
  · cases found : p.code[place]? with
    | none => rfl
    | some i =>
      cases i with
      | take set next => rfl
      | look l next =>
        dsimp only
        split <;> rfl
      | split first second => rfl
      | accept => rfl

theorem has_visit (r : Reached) (place q : Nat) :
    (p.visit r place).has q = (q == place || r.has q) := by
  unfold visit Reached.has
  by_cases same : q = place
  · subst same
    simp [Array.getD_eq_getD_getElem?, Array.getElem?_setIfInBounds]
    split <;> rfl
  · have : (q == place) = false := by simpa using same
    rw [this, Bool.false_or, Array.getD_eq_getD_getElem?, Array.getD_eq_getD_getElem?,
      Array.getElem?_setIfInBounds_ne (Ne.symm same)]

theorem count_visit {r : Reached} {place : Nat} (h : r.has place = false) :
    (p.visit r place).visited.count false + 1 = r.visited.count false := by
  have inside : place < r.visited.size := by
    by_contra outside
    rw [Reached.has, Array.getD_eq_getD_getElem?, Array.getElem?_eq_none (by omega)] at h
    cases h
  have unvisited : r.visited[place] = false := by
    rwa [Reached.has, Array.getD_eq_getD_getElem?, Array.getElem?_eq_getElem inside] at h
  have positive : 0 < r.visited.count false :=
    Array.count_pos_iff.2 (unvisited ▸ Array.getElem_mem inside)
  unfold visit
  dsimp only
  rw [Array.setIfInBounds_def, dif_pos inside, Array.count_set, unvisited]
  simp
  omega

/-! ## The search without fuel -/

/-- The search for the places that those on a stack lead to: depth first, and visiting none twice. -/
inductive Follows (p : Program) (before after : Option Char) : List Nat → Reached → Reached → Prop
  | done {r : Reached} : Follows p before after [] r r
  | seen {place : Nat} {stack : List Nat} {r r' : Reached} : r.has place = true →
      Follows p before after stack r r' → Follows p before after (place :: stack) r r'
  | visit {place : Nat} {stack : List Nat} {r r' : Reached} : r.has place = false →
      Follows p before after (p.ways before after place ++ stack) (p.visit r place) r' →
      Follows p before after (place :: stack) r r'

/-- A visit takes a place off the stack and one from those unvisited, and adds two to the stack at
most, so this much fuel lasts. -/
theorem follows_follow {fuel : Nat} {stack : List Nat} {r : Reached}
    (enough : stack.length + 2 * r.visited.count false ≤ fuel) :
    Follows p before after stack r (p.follow before after fuel stack r) := by
  induction fuel generalizing stack r with
  | zero =>
    have : stack = [] := List.eq_nil_of_length_eq_zero (by omega)
    subst this
    exact .done
  | succ fuel ih =>
    cases stack with
    | nil => exact .done
    | cons place stack =>
      rw [List.length_cons] at enough
      rw [follow_cons]
      cases seen : r.has place with
      | true => exact .seen seen (ih (by omega))
      | false =>
        refine .visit seen (ih ?_)
        have fewer := count_visit (p := p) seen
        have added := length_ways_le (p := p) before after place
        rw [List.length_append]
        omega

theorem Follows.append {stack stack' : List Nat} {r r' r'' : Reached}
    (h : Follows p before after stack r r') (h' : Follows p before after stack' r' r'') :
    Follows p before after (stack ++ stack') r r'' := by
  induction h with
  | done => exact h'
  | seen has _ ih => exact .seen has (ih h')
  | visit has _ ih =>
    rw [List.append_assoc] at ih
    exact .visit has (ih h')

theorem Follows.size_eq {stack : List Nat} {r r' : Reached}
    (h : Follows p before after stack r r') : r'.visited.size = r.visited.size := by
  induction h with
  | done => rfl
  | seen _ _ ih => exact ih
  | visit _ _ ih =>
    rw [ih]
    exact Array.size_setIfInBounds

/-- What has been visited stays visited, and all that was on the stack has been. -/
theorem Follows.has {stack : List Nat} {r r' : Reached} (h : Follows p before after stack r r') :
    ∀ q, q ∈ stack ∨ r.has q = true → r'.has q = true := by
  induction h with
  | done => exact fun q visited => visited.resolve_left List.not_mem_nil
  | @seen place stack r r' has _ ih =>
    intro q visited
    rw [List.mem_cons, or_assoc] at visited
    rcases visited with rfl | visited
    · exact ih q (.inr has)
    · exact ih q visited
  | @visit place stack r r' has _ ih =>
    intro q visited
    apply ih q
    rw [has_visit, Bool.or_eq_true, beq_iff_eq, List.mem_append]
    rw [List.mem_cons] at visited
    tauto

/-- Whatever has been visited has been followed, but for what is still on the stack. -/
structure Followed (p : Program) (before after : Option Char) (stack : List Nat) (r : Reached) :
    Prop where
  ways : ∀ q < p.code.size, r.has q = true →
    ∀ next ∈ p.ways before after q, next ∈ stack ∨ r.has next = true
  threads : ∀ q < p.code.size, r.has q = true → p.waits q = true → q ∈ r.threads

theorem Follows.followed {stack : List Nat} {r r' : Reached}
    (h : Follows p before after stack r r') (start : Followed p before after stack r) :
    Followed p before after [] r' := by
  induction h with
  | done => exact start
  | @seen place stack r r' has _ ih =>
    refine ih ⟨?_, start.threads⟩
    intro q inside visited next way
    rcases start.ways q inside visited next way with mem | visited'
    · rcases List.mem_cons.1 mem with rfl | mem
      · exact .inr has
      · exact .inl mem
    · exact .inr visited'
  | @visit place stack r r' has _ ih =>
    refine ih ⟨?_, ?_⟩
    · intro q inside visited next way
      rw [has_visit, Bool.or_eq_true, beq_iff_eq] at visited ⊢
      rw [List.mem_append]
      rcases visited with rfl | visited
      · exact .inl (.inl way)
      · have := start.ways q inside visited next way
        rw [List.mem_cons] at this
        tauto
    · intro q inside visited waiting
      rw [has_visit, Bool.or_eq_true, beq_iff_eq] at visited
      unfold Program.visit
      dsimp only
      rcases visited with rfl | visited
      · rw [if_pos waiting]
        exact List.mem_cons_self
      · have := start.threads q inside visited waiting
        split
        · exact List.mem_cons_of_mem _ this
        · exact this

/-- Threads are added in front, and they wait. -/
theorem Follows.threads {stack : List Nat} {r r' : Reached}
    (h : Follows p before after stack r r') :
    ∃ more, r'.threads = more ++ r.threads ∧ ∀ q ∈ more, p.waits q = true := by
  induction h with
  | done => exact ⟨[], rfl, by simp⟩
  | seen _ _ ih => exact ih
  | @visit place stack r r' _ _ ih =>
    obtain ⟨more, same, waiting⟩ := ih
    unfold Program.visit at same
    dsimp only at same
    split at same
    · next h =>
      refine ⟨more ++ [place], by rw [same, List.append_assoc]; rfl, ?_⟩
      intro q mem
      rcases List.mem_append.1 mem with mem | mem
      · exact waiting q mem
      · rwa [List.mem_singleton.1 mem]
    · exact ⟨more, same, waiting⟩

/-! ## The threads that some places lead to -/

/-- The threads at a position, in order of preference, given the places from which they are found. -/
def threadsFrom (p : Program) (before after : Option Char) (places : List Nat) : List Nat :=
  (places.foldl (p.spawn before after) p.unreached).threads.reverse

theorem follows_spawn (before after : Option Char) {r : Reached}
    (size : r.visited.size = p.code.size) (place : Nat) :
    Follows p before after [place] r (p.spawn before after r place) := by
  apply follows_follow
  have : r.visited.count false ≤ r.visited.size := Array.count_le_size
  rw [List.length_singleton]
  omega

theorem follows_foldl (before after : Option Char) {r : Reached}
    (size : r.visited.size = p.code.size) (places : List Nat) :
    Follows p before after places r (places.foldl (p.spawn before after) r) := by
  induction places generalizing r with
  | nil => exact .done
  | cons place places ih =>
    have first := follows_spawn before after size place
    exact first.append (ih (first.size_eq.trans size))

theorem size_unreached : p.unreached.visited.size = p.code.size :=
  Array.size_replicate

theorem not_has_unreached {q : Nat} (inside : q < p.code.size) : p.unreached.has q = false := by
  unfold unreached Reached.has
  simp [Array.getD_eq_getD_getElem?, inside]

/-- What is found from some places follows all of them. -/
theorem exists_follows (before after : Option Char) (places : List Nat) :
    ∃ r, Follows p before after places p.unreached r ∧
      p.threadsFrom before after places = r.threads.reverse :=
  ⟨_, follows_foldl before after size_unreached places, rfl⟩

theorem waits_of_mem_threadsFrom {places : List Nat} {q : Nat}
    (h : q ∈ p.threadsFrom before after places) : p.waits q = true := by
  obtain ⟨r, follows, same⟩ := exists_follows (p := p) before after places
  obtain ⟨more, threads, waiting⟩ := follows.threads
  rw [same, threads, List.mem_reverse, List.mem_append] at h
  exact waiting q (h.resolve_right List.not_mem_nil)

/-- Further places add threads behind all others. -/
theorem threadsFrom_append (before after : Option Char) (places further : List Nat) :
    ∃ more, p.threadsFrom before after (places ++ further) =
      p.threadsFrom before after places ++ more := by
  have size := (follows_foldl (p := p) before after size_unreached places).size_eq.trans
    size_unreached
  obtain ⟨more, threads, _⟩ := (follows_foldl before after size further).threads
  refine ⟨more.reverse, ?_⟩
  unfold threadsFrom
  rw [List.foldl_append, threads, List.reverse_append]

/-- What has been found from some places follows whatever they lead to. -/
theorem followed_unreached (places : List Nat) :
    Followed p before after places p.unreached where
  ways := by
    intro q inside visited
    rw [not_has_unreached inside] at visited
    cases visited
  threads := by
    intro q inside visited
    rw [not_has_unreached inside] at visited
    cases visited

end TextCursor.Pattern.Program
