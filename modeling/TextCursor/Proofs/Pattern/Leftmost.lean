import TextCursor.Pattern
import TextCursor.Proofs.Pattern.Reaching

/-!
# The first match

A search that is not anchored finds the match of the anchored search at the first position that has one
(`matchLength?_unanchored`): an earlier start is preferred to a later one, and among the ways from one
start the anchored search prefers the same.

The searches differ in their threads: that from one position has fewer, since it starts once, and more,
since it need not leave out the places that earlier starts have visited. The places that matter are
those from which a report can be reached (`alive`): threads with the same such places give the same
result (`run_congr`), and as long as nothing is found all earlier starts have none.
-/

namespace TextCursor.Pattern.Program

variable {p : Program} {before : Option Char} {rest : List Char}

/-! ## Places that cannot reach a report -/

/-- The places among some from which a report can be reached. -/
def alive (p : Program) (before : Option Char) (rest : List Char) (places : List Nat) : List Nat :=
  places.filter fun q => p.Reaches before rest q

theorem alive_append (places places' : List Nat) :
    p.alive before rest (places ++ places') =
      p.alive before rest places ++ p.alive before rest places' :=
  List.filter_append _ _

theorem alive_cons_of {q : Nat} (h : p.Reaches before rest q) (places : List Nat) :
    p.alive before rest (q :: places) = q :: p.alive before rest places :=
  List.filter_cons_of_pos (by simpa using h)

theorem alive_cons_of_not {q : Nat} (h : ¬p.Reaches before rest q) (places : List Nat) :
    p.alive before rest (q :: places) = p.alive before rest places :=
  List.filter_cons_of_neg (by simpa using h)

theorem alive_eq_nil {places : List Nat} :
    p.alive before rest places = [] ↔ ∀ q ∈ places, ¬p.Reaches before rest q := by
  simp [alive, List.filter_eq_nil_iff]

theorem alive_ways_of_not {q : Nat} (h : ¬p.Reaches before rest q) :
    p.alive before rest (p.ways before rest.head? q) = [] :=
  alive_eq_nil.2 fun _ way reaches => h (.way way reaches)

/-- Two states that differ only in places that cannot reach a report. -/
structure Akin (p : Program) (before : Option Char) (rest : List Char) (r r' : Reached) : Prop where
  has : ∀ q, p.Reaches before rest q → r.has q = r'.has q
  threads : p.alive before rest r.threads = p.alive before rest r'.threads

theorem Akin.refl (r : Reached) : Akin p before rest r r :=
  ⟨fun _ _ => rfl, rfl⟩

theorem Akin.symm {r r' : Reached} (h : Akin p before rest r r') : Akin p before rest r' r :=
  ⟨fun q reaches => (h.has q reaches).symm, h.threads.symm⟩

theorem Akin.trans {r r' r'' : Reached} (h : Akin p before rest r r')
    (h' : Akin p before rest r' r'') : Akin p before rest r r'' :=
  ⟨fun q reaches => (h.has q reaches).trans (h'.has q reaches), h.threads.trans h'.threads⟩

theorem Akin.visit {r r' : Reached} (h : Akin p before rest r r') (place : Nat) :
    Akin p before rest (p.visit r place) (p.visit r' place) where
  has q reaches := by rw [has_visit, has_visit, h.has q reaches]
  threads := by
    unfold Program.visit
    dsimp only
    split
    · by_cases reaches : p.Reaches before rest place
      · rw [alive_cons_of reaches, alive_cons_of reaches, h.threads]
      · rw [alive_cons_of_not reaches, alive_cons_of_not reaches, h.threads]
    · exact h.threads

theorem akin_visit_of_not {place : Nat} (h : ¬p.Reaches before rest place) (r : Reached) :
    Akin p before rest r (p.visit r place) where
  has q reaches := by
    have other : (q == place) = false := by
      rw [beq_eq_false_iff_ne]
      rintro rfl
      exact h reaches
    rw [has_visit, other, Bool.false_or]
  threads := by
    unfold Program.visit
    dsimp only
    split
    · rw [alive_cons_of_not h]
    · rfl

/-- Places that cannot reach a report change nothing for those that can. -/
theorem Follows.akin_of_alive_eq_nil {stack : List Nat} {r r' : Reached}
    (h : Follows p before rest.head? stack r r') (none : p.alive before rest stack = []) :
    Akin p before rest r r' := by
  induction h with
  | done => exact .refl _
  | seen _ _ ih => exact ih (alive_eq_nil.2 fun q mem => alive_eq_nil.1 none q (.tail _ mem))
  | @visit place stack r r' _ _ ih =>
    have dead : ¬p.Reaches before rest place := alive_eq_nil.1 none place List.mem_cons_self
    rw [alive_cons_of_not dead] at none
    exact (akin_visit_of_not dead r).trans (ih (by rw [alive_append, alive_ways_of_not dead, none]; rfl))

/-- Those in front of the first place that can reach a report can be left out. -/
theorem Follows.exists_of_alive_eq_cons {stack : List Nat} {r r' : Reached}
    (h : Follows p before rest.head? stack r r') {q : Nat} {others : List Nat}
    (first : p.alive before rest stack = q :: others) :
    ∃ stack' r₁, Follows p before rest.head? (q :: stack') r₁ r' ∧ Akin p before rest r r₁ ∧
      p.alive before rest stack' = others := by
  induction h with
  | done => cases first
  | @seen place stack r r' has follows ih =>
    by_cases reaches : p.Reaches before rest place
    · rw [alive_cons_of reaches] at first
      cases first
      exact ⟨stack, r, .seen has follows, .refl r, rfl⟩
    · rw [alive_cons_of_not reaches] at first
      exact ih first
  | @visit place stack r r' has follows ih =>
    by_cases reaches : p.Reaches before rest place
    · rw [alive_cons_of reaches] at first
      cases first
      exact ⟨stack, r, .visit has follows, .refl r, rfl⟩
    · rw [alive_cons_of_not reaches] at first
      obtain ⟨stack', r₁, follows', akin, same⟩ :=
        ih (by rw [alive_append, alive_ways_of_not reaches, first]; rfl)
      exact ⟨stack', r₁, follows', (akin_visit_of_not reaches r).trans akin, same⟩

/-- What is found from two stacks differs only in places that cannot reach a report if the stacks do. -/
theorem Follows.akin {stack stack' : List Nat} {r r' r₁ r₁' : Reached}
    (h : Follows p before rest.head? stack r r₁) (h' : Follows p before rest.head? stack' r' r₁')
    (same : p.alive before rest stack = p.alive before rest stack') (start : Akin p before rest r r') :
    Akin p before rest r₁ r₁' := by
  -- by the steps of the first search; at each place that can reach a report, the second is taken to the
  -- same place, and the two agree on whether it has been visited
  induction h generalizing stack' r' with
  | done => exact start.trans (h'.akin_of_alive_eq_nil same.symm)
  | @seen place stack r r₁ has _ ih =>
    by_cases reaches : p.Reaches before rest place
    · rw [alive_cons_of reaches] at same
      obtain ⟨stack₂, r₂, follows, akin, same₂⟩ := h'.exists_of_alive_eq_cons same.symm
      have akin := start.trans akin
      cases follows with
      | seen _ follows => exact ih follows same₂.symm akin
      | visit has' _ =>
        rw [← akin.has place reaches, has] at has'
        cases has'
    · rw [alive_cons_of_not reaches] at same
      exact ih h' same start
  | @visit place stack r r₁ has _ ih =>
    by_cases reaches : p.Reaches before rest place
    · rw [alive_cons_of reaches] at same
      obtain ⟨stack₂, r₂, follows, akin, same₂⟩ := h'.exists_of_alive_eq_cons same.symm
      have akin := start.trans akin
      cases follows with
      | seen has' _ =>
        rw [← akin.has place reaches, has] at has'
        cases has'
      | visit _ follows =>
        exact ih follows (by rw [alive_append, alive_append, same₂]) (akin.visit place)
    · rw [alive_cons_of_not reaches] at same
      refine ih h' ?_ ((akin_visit_of_not reaches r).symm.trans start)
      rw [alive_append, alive_ways_of_not reaches, same]
      rfl

theorem alive_threadsFrom {places places' : List Nat}
    (same : p.alive before rest places = p.alive before rest places') :
    p.alive before rest (p.threadsFrom before rest.head? places) =
      p.alive before rest (p.threadsFrom before rest.head? places') := by
  obtain ⟨r, follows, threads⟩ := exists_follows (p := p) before rest.head? places
  obtain ⟨r', follows', threads'⟩ := exists_follows (p := p) before rest.head? places'
  have akin := (follows.akin follows' same (.refl _)).threads
  unfold alive at akin ⊢
  rw [threads, threads', List.filter_reverse, List.filter_reverse, akin]

/-! ## Threads that cannot reach a report -/

theorem any_reports_alive (before : Option Char) (rest : List Char) (threads : List Nat) :
    (p.alive before rest threads).any p.reports = threads.any p.reports := by
  unfold alive
  rw [List.any_filter]
  congr 1
  funext q
  cases reports : p.reports q with
  | true => simp [Reaches.report reports]
  | false => exact Bool.and_false _

theorem alive_seeds (c : Char) (threads : List Nat) :
    p.alive (some c) rest (p.seeds false (p.alive before (c :: rest) threads) c) =
      p.alive (some c) rest (p.seeds false threads c) := by
  unfold seeds
  rw [if_neg Bool.false_ne_true, List.append_nil, List.append_nil]
  induction threads with
  | nil => rfl
  | cons q threads ih =>
    by_cases reaches : p.Reaches before (c :: rest) q
    · rw [alive_cons_of reaches]
      cases reports : p.reports q with
      | true => simp [reports]
      | false =>
        rw [List.takeWhile_cons_of_pos (by rw [reports]; rfl),
          List.takeWhile_cons_of_pos (by rw [reports]; rfl)]
        cases goes : p.successor? c q with
        | none => rw [List.filterMap_cons_none goes, List.filterMap_cons_none goes, ih]
        | some next =>
          rw [List.filterMap_cons_some goes, List.filterMap_cons_some goes, ← List.singleton_append,
            alive_append, ih, ← alive_append, List.singleton_append]
    · have silent : p.reports q = false := by
        by_contra reports
        exact reaches (.report (by simpa using reports))
      rw [alive_cons_of_not reaches, List.takeWhile_cons_of_pos (by rw [silent]; rfl), ih]
      cases goes : p.successor? c q with
      | none => rw [List.filterMap_cons_none goes]
      | some next =>
        rw [List.filterMap_cons_some goes,
          alive_cons_of_not fun reaches' => reaches (.take goes reaches')]

theorem reported_congr {threads threads' : List Nat}
    (same : p.alive before rest threads = p.alive before rest threads') (taken : Nat)
    (found : Option Nat) :
    p.reported threads taken found = p.reported threads' taken found := by
  unfold reported
  rw [← any_reports_alive before rest threads, same, any_reports_alive]

theorem run_congr {threads threads' : List Nat}
    (same : p.alive before rest threads = p.alive before rest threads') (taken : Nat)
    (found : Option Nat) :
    p.run true rest taken threads found = p.run true rest taken threads' found := by
  induction rest generalizing before taken threads threads' found with
  | nil => exact reported_congr same taken found
  | cons c rest ih =>
    rw [run_cons, run_cons, reported_congr same]
    have seeded : p.alive (some c) rest (p.seeds false threads c) =
        p.alive (some c) rest (p.seeds false threads' c) := by
      rw [← alive_seeds, same, alive_seeds]
    rw [Bool.not_true, Bool.false_and]
    exact ih (alive_threadsFrom seeded) _ _

/-! ## Searching at every position -/

/-- Further threads behind those that find something change nothing, and neither do further starts. -/
theorem run_append {threads : List Nat} {taken n : Nat}
    (h : p.run true rest taken threads none = some n) (further : List Nat) (found : Option Nat) :
    p.run false rest taken (threads ++ further) found = some n := by
  induction rest generalizing taken threads further found with
  | nil =>
    unfold run reported at h ⊢
    split at h
    · next any => rw [List.any_append, any, Bool.true_or, if_pos rfl, h]
    · cases h
  | cons c rest ih =>
    rw [run_cons, Bool.not_true, Bool.false_and] at h
    rw [run_cons]
    cases any : threads.any p.reports with
    | true =>
      -- the report drops what is behind it, and ends the search for other starts
      rw [reported_of_any any] at h
      rw [reported_of_any (by rw [List.any_append, any, Bool.true_or]), seeds_append_of_any any,
        run_of_found]
      exact h
    | false =>
      rw [reported_of_not_any any, seeds_of_silent any] at h
      rw [seeds_append_of_silent any]
      obtain ⟨more, same⟩ := threadsFrom_append (p := p) (some c) rest.head?
        (threads.filterMap (p.successor? c)) (p.seeds _ further c)
      rw [same]
      exact ih (by simpa using h) more _

/-- The end of the match that an anchored search finds at a position of a text. -/
def matchLengthAt? (p : Program) (text : List Char) (i : Nat) : Option Nat :=
  p.run true (text.drop i) i
    (p.threadsFrom (text.take i).getLast? (text.drop i).head? [p.start]) none

theorem matchLengthAt?_append (before rest : List Char) :
    p.matchLengthAt? (before ++ rest) before.length =
      p.run true rest before.length (p.threadsFrom before.getLast? rest.head? [p.start]) none := by
  unfold matchLengthAt?
  rw [List.drop_left, List.take_left]

theorem matchLengthAt?_zero (text : List Char) :
    p.matchLengthAt? text 0 = p.matchLength? true text :=
  matchLengthAt?_append [] text

theorem le_of_matchLengthAt? {text : List Char} {i n : Nat}
    (h : p.matchLengthAt? text i = some n) : i ≤ n :=
  le_of_run h (Nat.le_refl i) nofun

/-- From a start that can reach a report the search finds what an anchored one does, as earlier starts
that cannot do so make no difference. -/
theorem run_of_reaches {places : List Nat} (earlier : p.alive before rest places = [])
    (reaches : p.Reaches before rest p.start) (taken : Nat) :
    p.run false rest taken (p.threadsFrom before rest.head? (places ++ [p.start])) none =
      p.run true rest taken (p.threadsFrom before rest.head? [p.start]) none := by
  obtain ⟨n, found⟩ := Option.isSome_iff_exists.1 ((isSome_run_iff before rest taken p.start).2 reaches)
  have same : p.alive before rest (places ++ [p.start]) = p.alive before rest [p.start] := by
    rw [alive_append, earlier, List.nil_append]
  have found' := found
  rw [← run_congr (alive_threadsFrom same)] at found'
  have := run_append found' [] none
  rw [List.append_nil] at this
  rw [this, found]

/-- Neither earlier starts nor the present one have led to a thread that can reach a report. -/
theorem alive_threadsFrom_starts {places : List Nat} (earlier : p.alive before rest places = [])
    (h : ¬p.Reaches before rest p.start) :
    p.alive before rest (p.threadsFrom before rest.head? (places ++ [p.start])) = [] := by
  rw [alive_eq_nil] at earlier ⊢
  intro q thread reaches
  obtain ⟨place, mem, reaches⟩ := reaches_of_mem_threadsFrom thread reaches
  rcases List.mem_append.1 mem with mem | mem
  · exact earlier place mem reaches
  · rw [List.mem_singleton.1 mem] at reaches
    exact h reaches

theorem any_reports_of_alive_eq_nil {threads : List Nat}
    (h : p.alive before rest threads = []) : threads.any p.reports = false := by
  rw [← any_reports_alive before rest, h]
  rfl

theorem alive_filterMap_eq_nil {c : Char} {threads : List Nat}
    (h : p.alive before (c :: rest) threads = []) :
    p.alive (some c) rest (threads.filterMap (p.successor? c)) = [] := by
  rw [alive_eq_nil] at h ⊢
  intro next mem reaches
  obtain ⟨q, mem, goes⟩ := List.mem_filterMap.1 mem
  exact h q mem (.take goes reaches)

theorem findSome?_of_reaches {before rest : List Char}
    (h : p.Reaches before.getLast? rest p.start) (later : List Nat) :
    (before.length :: later).findSome? (p.matchLengthAt? (before ++ rest)) =
      p.matchLengthAt? (before ++ rest) before.length := by
  have found := (isSome_run_iff before.getLast? rest before.length p.start).2 h
  rw [← matchLengthAt?_append] at found
  obtain ⟨n, found⟩ := Option.isSome_iff_exists.1 found
  rw [List.findSome?_cons, found]

theorem findSome?_of_not_reaches {before rest : List Char}
    (h : ¬p.Reaches before.getLast? rest p.start) (later : List Nat) :
    (before.length :: later).findSome? (p.matchLengthAt? (before ++ rest)) =
      later.findSome? (p.matchLengthAt? (before ++ rest)) := by
  rw [← isSome_run_iff before.getLast? rest before.length p.start, ← matchLengthAt?_append,
    Option.not_isSome_iff_eq_none] at h
  rw [List.findSome?_cons, h]

/-- As long as nothing is found, no thread of an earlier start can reach a report. So the search finds
what an anchored one does at the present position or else at a later one. -/
theorem run_unanchored (before rest : List Char) {places : List Nat}
    (earlier : p.alive before.getLast? rest places = []) :
    p.run false rest before.length
        (p.threadsFrom before.getLast? rest.head? (places ++ [p.start])) none =
      (List.range' before.length (rest.length + 1)).findSome?
        (p.matchLengthAt? (before ++ rest)) := by
  induction rest generalizing before places with
  | nil =>
    rw [List.length_nil, List.range'_succ]
    by_cases reaches : p.Reaches before.getLast? [] p.start
    · rw [findSome?_of_reaches reaches, run_of_reaches earlier reaches, matchLengthAt?_append]
    · have silent := any_reports_of_alive_eq_nil (alive_threadsFrom_starts earlier reaches)
      rw [findSome?_of_not_reaches reaches]
      unfold run
      rw [reported_of_not_any silent]
      rfl
  | cons c rest ih =>
    rw [List.length_cons, List.range'_succ]
    by_cases reaches : p.Reaches before.getLast? (c :: rest) p.start
    · rw [findSome?_of_reaches reaches, run_of_reaches earlier reaches, matchLengthAt?_append]
    · have dead := alive_threadsFrom_starts earlier reaches
      have silent := any_reports_of_alive_eq_nil dead
      have earlier' : p.alive (before ++ [c]).getLast? rest
          ((p.threadsFrom before.getLast? (c :: rest).head? (places ++ [p.start])).filterMap
            (p.successor? c)) = [] := by
        rw [List.getLast?_concat]
        exact alive_filterMap_eq_nil dead
      have next := ih (before ++ [c]) earlier'
      rw [List.getLast?_concat, List.length_append, List.length_singleton, List.append_assoc,
        List.singleton_append] at next
      rw [findSome?_of_not_reaches reaches, run_cons, reported_of_not_any silent,
        seeds_of_silent silent]
      exact next

/-- **Leftmost first.** A search that is not anchored finds the match that an anchored search finds at
the first position where it finds one. -/
theorem matchLength?_unanchored (p : Program) (text : List Char) :
    p.matchLength? false text =
      (List.range (text.length + 1)).findSome? (p.matchLengthAt? text) := by
  rw [List.range_eq_range']
  exact run_unanchored [] text (rfl : p.alive none text [] = [])

end TextCursor.Pattern.Program

namespace TextCursor.Pattern

variable {p : Pattern} {text m : String}

/-- The text from the start up to the end of the match that an anchored search finds at a position, if
it finds one. -/
def matchedFrom? (p : Pattern) (text : String) (i : Nat) : Option String :=
  (p.program.matchLengthAt? text.toList i).map fun n => String.ofList (text.toList.take n)

theorem matchedFrom?_zero (p : Pattern) (text : String) :
    p.matchedFrom? text 0 = p.matched? true text := by
  unfold matchedFrom? matched?
  rw [Program.matchLengthAt?_zero]

theorem matched?_unanchored (p : Pattern) (text : String) :
    p.matched? false text = (List.range (text.length + 1)).findSome? (p.matchedFrom? text) := by
  unfold matched? matchedFrom?
  rw [Program.matchLength?_unanchored, List.map_findSome?, String.length_toList]
  rfl

/-- What is found from a position contains what lies before it. -/
theorem le_length_of_matchedFrom? {i : Nat} (h : p.matchedFrom? text i = some m)
    (inside : i ≤ text.length) : i ≤ m.length := by
  unfold matchedFrom? at h
  obtain ⟨n, found, rfl⟩ := Option.map_eq_some_iff.1 h
  have := Program.le_of_matchLengthAt? found
  rw [String.length_ofList, List.length_take, String.length_toList]
  omega

theorem matched?_unanchored_of_some (h : p.matched? true text = some m) :
    p.matched? false text = some m := by
  rw [matched?_unanchored, List.range_succ_eq_map, List.findSome?_cons, matchedFrom?_zero, h]

/-- Where nothing matches at the start, what a search finds further on is not empty. -/
theorem ne_empty_of_matched? (none : p.matched? true text = none)
    (h : p.matched? false text = some m) : m ≠ "" := by
  rw [matched?_unanchored, List.range_succ_eq_map, List.findSome?_cons, matchedFrom?_zero, none] at h
  obtain ⟨i, mem, found⟩ := List.exists_of_findSome?_eq_some h
  obtain ⟨j, inside, rfl⟩ := List.mem_map.1 mem
  have := le_length_of_matchedFrom? found (List.mem_range.1 inside)
  rintro rfl
  rw [String.length_empty] at this
  omega

end TextCursor.Pattern
