import Mathlib.Data.List.TakeWhile
import TextCursor.Proofs.Pattern.Threads

/-!
# Reaching a report

What it takes for an anchored search to find something: that a report can be reached from its start
(`isSome_run_iff`), by the ways that take no character and by taking the characters ahead (`Reaches`).
So it can be decided of each place whether a report can be reached from it.
-/

namespace TextCursor.Pattern.Program

variable {p : Program} {before : Option Char} {rest : List Char}

/-! ## One character -/

/-- The places from which the threads behind a character are found. -/
def seeds (p : Program) (searching : Bool) (threads : List Nat) (c : Char) : List Nat :=
  (threads.takeWhile fun q => !p.reports q).filterMap (p.successor? c) ++
    if searching then [p.start] else []

theorem run_no_threads {anchored : Bool} {found : Option Nat} (h : anchored = true ∨ found.isSome)
    (text : List Char) (taken : Nat) : p.run anchored text taken [] found = found := by
  cases text with
  | nil => rfl
  | cons c rest =>
    have settled : (!anchored && found.isNone) = false := by
      rcases h with rfl | some
      · rfl
      · cases found with
        | none => cases some
        | some n => exact Bool.and_false _
    simp [run, reported, settled]

/-- A search that stops early would have gone on without threads. -/
theorem run_cons (anchored : Bool) (c : Char) (rest : List Char) (taken : Nat) (threads : List Nat)
    (found : Option Nat) :
    p.run anchored (c :: rest) taken threads found =
      p.run anchored rest (taken + 1)
        (p.threadsFrom (some c) rest.head?
          (p.seeds (!anchored && (p.reported threads taken found).isNone) threads c))
        (p.reported threads taken found) := by
  rw [run]
  dsimp only
  generalize p.reported threads taken found = found'
  generalize hs : (!anchored && found'.isNone) = searching
  unfold seeds
  generalize threads.takeWhile (fun q => !p.reports q) = live
  cases searching with
  | true =>
    rw [Bool.not_true, Bool.and_false, if_neg Bool.false_ne_true, if_pos rfl, if_pos rfl]
    unfold threadsFrom advance
    rw [List.foldl_append]
    rfl
  | false =>
    rw [Bool.not_false, Bool.and_true, if_neg Bool.false_ne_true, if_neg Bool.false_ne_true,
      List.append_nil]
    split
    · next empty =>
      rw [List.isEmpty_iff.1 empty]
      refine (run_no_threads ?_ rest (taken + 1)).symm
      cases anchored with
      | true => exact .inl rfl
      | false =>
        cases found' with
        | none => cases hs
        | some n => exact .inr rfl
    · rfl

theorem seeds_append_of_silent {threads : List Nat} (h : threads.any p.reports = false)
    (searching : Bool) (further : List Nat) (c : Char) :
    p.seeds searching (threads ++ further) c =
      threads.filterMap (p.successor? c) ++ p.seeds searching further c := by
  have silent : ∀ q ∈ threads, (!p.reports q) = true := by simpa using h
  unfold seeds
  rw [List.takeWhile_append_of_pos silent, List.filterMap_append, List.append_assoc]

theorem seeds_of_silent {threads : List Nat} (h : threads.any p.reports = false)
    (searching : Bool) (c : Char) :
    p.seeds searching threads c =
      threads.filterMap (p.successor? c) ++ if searching then [p.start] else [] := by
  have := seeds_append_of_silent h searching [] c
  rwa [List.append_nil] at this

/-- A report drops the threads behind it. -/
theorem seeds_append_of_any {threads : List Nat} (h : threads.any p.reports = true)
    (searching : Bool) (further : List Nat) (c : Char) :
    p.seeds searching (threads ++ further) c = p.seeds searching threads c := by
  obtain ⟨q, mem, reports⟩ := List.any_eq_true.1 h
  unfold seeds
  rw [List.takeWhile_append, if_neg]
  intro all
  have same := (List.takeWhile_prefix fun q => !p.reports q).eq_of_length all
  have silent := List.takeWhile_eq_self_iff.1 same q mem
  rw [reports] at silent
  cases silent

theorem reported_of_any {threads : List Nat} (h : threads.any p.reports = true) (taken : Nat)
    (found : Option Nat) : p.reported threads taken found = some taken :=
  if_pos h

theorem reported_of_not_any {threads : List Nat} (h : threads.any p.reports = false) (taken : Nat)
    (found : Option Nat) : p.reported threads taken found = found := by
  unfold reported
  rw [h]
  rfl

/-- Once something is found, the search starts no more threads, so it is as if anchored. -/
theorem run_of_found (text : List Char) (taken n : Nat) (threads : List Nat) :
    p.run false text taken threads (some n) = p.run true text taken threads (some n) := by
  induction text generalizing taken n threads with
  | nil => rfl
  | cons c rest ih =>
    rw [run_cons, run_cons]
    unfold reported
    split
    · exact ih _ _ _
    · exact ih _ _ _

theorem isSome_run_of_found (text : List Char) (taken n : Nat) (threads : List Nat) :
    (p.run true text taken threads (some n)).isSome = true := by
  induction text generalizing taken n threads with
  | nil =>
    unfold run reported
    split <;> rfl
  | cons c rest ih =>
    rw [run_cons]
    unfold reported
    split
    · exact ih _ _ _
    · exact ih _ _ _

theorem le_of_reported {taken n least : Nat} {threads : List Nat} {found : Option Nat}
    (h : p.reported threads taken found = some n) (ht : least ≤ taken)
    (hf : ∀ m, found = some m → least ≤ m) : least ≤ n := by
  unfold reported at h
  split at h
  · cases h
    exact ht
  · exact hf n h

/-- What is found from some position on ends there or later. -/
theorem le_of_run {anchored : Bool} {text : List Char} {taken n least : Nat} {threads : List Nat}
    {found : Option Nat} (h : p.run anchored text taken threads found = some n)
    (ht : least ≤ taken) (hf : ∀ m, found = some m → least ≤ m) : least ≤ n := by
  induction text generalizing taken threads found with
  | nil => exact le_of_reported h ht hf
  | cons c rest ih =>
    rw [run_cons] at h
    exact ih h (Nat.le_succ_of_le ht) fun m hm => le_of_reported hm ht hf

/-! ## Reaching a report -/

/-- A report can be reached from a place, with a character before it and some text ahead. -/
inductive Reaches (p : Program) : Option Char → List Char → Nat → Prop
  | report {before : Option Char} {rest : List Char} {q : Nat} : p.reports q = true →
      Reaches p before rest q
  | way {before : Option Char} {rest : List Char} {q next : Nat} :
      next ∈ p.ways before rest.head? q → Reaches p before rest next → Reaches p before rest q
  | take {before : Option Char} {c : Char} {rest : List Char} {q next : Nat} :
      p.successor? c q = some next → Reaches p (some c) rest next → Reaches p before (c :: rest) q

theorem lt_of_reports {q : Nat} (h : p.reports q = true) : q < p.code.size := by
  by_contra outside
  rw [reports, Array.getElem?_eq_none (by omega)] at h
  cases h

theorem lt_of_successor? {c : Char} {q next : Nat} (h : p.successor? c q = some next) :
    q < p.code.size := by
  by_contra outside
  rw [successor?, Array.getElem?_eq_none (by omega)] at h
  cases h

theorem waits_of_successor? {c : Char} {q next : Nat} (h : p.successor? c q = some next) :
    p.waits q = true := by
  unfold successor? at h
  unfold waits
  split at h
  · next found => rw [found]
  · cases h

/-- A place that waits can reach a report only by reporting, or by taking a character. -/
theorem Reaches.of_waits {q : Nat} (h : p.Reaches before rest q) (waiting : p.waits q = true) :
    p.reports q = true ∨ ∃ c tail next, rest = c :: tail ∧ p.successor? c q = some next ∧
      p.Reaches (some c) tail next := by
  cases h with
  | report reports => exact .inl reports
  | way way _ =>
    rw [ways_of_waits waiting] at way
    cases way
  | take taken reaches => exact .inr ⟨_, _, _, rfl, taken, reaches⟩

/-! ## The threads of places that can reach a report -/

theorem Follows.reaches {stack : List Nat} {r r' : Reached}
    (h : Follows p before rest.head? stack r r') {q : Nat} (thread : q ∈ r'.threads)
    (reaches : p.Reaches before rest q) :
    q ∈ r.threads ∨ ∃ place ∈ stack, p.Reaches before rest place := by
  induction h with
  | done => exact .inl thread
  | @seen place stack r r' _ _ ih =>
    rcases ih thread with mem | ⟨place', mem, reaches'⟩
    · exact .inl mem
    · exact .inr ⟨place', List.mem_cons_of_mem _ mem, reaches'⟩
  | @visit place stack r r' _ _ ih =>
    rcases ih thread with mem | ⟨place', mem, reaches'⟩
    · unfold Program.visit at mem
      dsimp only at mem
      split at mem
      · rcases List.mem_cons.1 mem with rfl | mem
        · exact .inr ⟨q, List.mem_cons_self, reaches⟩
        · exact .inl mem
      · exact .inl mem
    · rcases List.mem_append.1 mem with way | mem
      · exact .inr ⟨place, List.mem_cons_self, .way way reaches'⟩
      · exact .inr ⟨place', List.mem_cons_of_mem _ mem, reaches'⟩

theorem reaches_of_mem_threadsFrom {places : List Nat} {q : Nat}
    (thread : q ∈ p.threadsFrom before rest.head? places) (reaches : p.Reaches before rest q) :
    ∃ place ∈ places, p.Reaches before rest place := by
  obtain ⟨r, follows, same⟩ := exists_follows (p := p) before rest.head? places
  rw [same, List.mem_reverse] at thread
  exact (follows.reaches thread reaches).resolve_left List.not_mem_nil

/-- Once all has been followed, a visited place that can reach a report has led to a thread that can. -/
theorem Reaches.exists_thread {q : Nat} (h : p.Reaches before rest q) {r : Reached}
    (followed : Followed p before rest.head? [] r) (visited : r.has q = true) :
    ∃ thread ∈ r.threads, p.Reaches before rest thread := by
  induction h with
  | @report before rest q reports =>
    exact ⟨q, followed.threads q (lt_of_reports reports) visited (waits_of_reports reports),
      .report reports⟩
  | way way _ ih =>
    have := followed.ways _ (lt_of_mem_ways way) visited _ way
    exact ih followed (this.resolve_left List.not_mem_nil)
  | @take before c rest q next taken reaches =>
    exact ⟨q, followed.threads q (lt_of_successor? taken) visited (waits_of_successor? taken),
      .take taken reaches⟩

theorem exists_mem_threadsFrom {places : List Nat} {q : Nat} (mem : q ∈ places)
    (reaches : p.Reaches before rest q) :
    ∃ thread ∈ p.threadsFrom before rest.head? places, p.Reaches before rest thread := by
  obtain ⟨r, follows, same⟩ := exists_follows (p := p) before rest.head? places
  have followed := follows.followed (followed_unreached places)
  obtain ⟨thread, mem', reaches'⟩ := reaches.exists_thread followed (follows.has q (.inl mem))
  exact ⟨thread, by rw [same]; exact List.mem_reverse.2 mem', reaches'⟩

/-! ## What an anchored search finds -/

theorem reaches_of_run (before : Option Char) {threads : List Nat} {taken n : Nat}
    (h : p.run true rest taken threads none = some n) :
    ∃ q ∈ threads, p.Reaches before rest q := by
  induction rest generalizing before taken threads with
  | nil =>
    unfold run reported at h
    split at h
    · next any =>
      obtain ⟨q, mem, reports⟩ := List.any_eq_true.1 any
      exact ⟨q, mem, .report reports⟩
    · cases h
  | cons c rest ih =>
    cases any : threads.any p.reports with
    | true =>
      obtain ⟨q, mem, reports⟩ := List.any_eq_true.1 any
      exact ⟨q, mem, .report reports⟩
    | false =>
      rw [run_cons, reported_of_not_any any] at h
      obtain ⟨q, thread, reaches⟩ := ih (some c) h
      obtain ⟨place, mem, reaches⟩ := reaches_of_mem_threadsFrom thread reaches
      unfold seeds at mem
      rw [Bool.not_true, Bool.false_and, if_neg Bool.false_ne_true, List.append_nil,
        List.mem_filterMap] at mem
      obtain ⟨q', live, taken⟩ := mem
      exact ⟨q', (List.takeWhile_prefix _).subset live, .take taken reaches⟩

theorem Reaches.isSome_run {threads : List Nat} {q : Nat} (h : p.Reaches before rest q)
    (mem : q ∈ threads) (waiting : ∀ t ∈ threads, p.waits t = true) (taken : Nat) :
    (p.run true rest taken threads none).isSome = true := by
  induction rest generalizing before taken threads q with
  | nil =>
    rcases h.of_waits (waiting q mem) with reports | ⟨_, _, _, nil, _⟩
    · unfold run
      rw [reported_of_any (List.any_eq_true.2 ⟨q, mem, reports⟩)]
      rfl
    · cases nil
  | cons c rest ih =>
    rw [run_cons]
    cases any : threads.any p.reports with
    | true =>
      rw [reported_of_any any]
      exact isSome_run_of_found _ _ _ _
    | false =>
      rw [reported_of_not_any any]
      have silent : ∀ t ∈ threads, p.reports t = false := by simpa using any
      rcases h.of_waits (waiting q mem) with reports | ⟨_, _, next, same, goes, reaches⟩
      · rw [silent q mem] at reports
        cases reports
      · cases same
        have seed : next ∈ p.seeds false threads c := by
          rw [seeds_of_silent any]
          exact List.mem_append_left _ (List.mem_filterMap.2 ⟨q, mem, goes⟩)
        obtain ⟨thread, mem', reaches'⟩ := exists_mem_threadsFrom seed reaches
        exact ih reaches' mem' (fun t ht => waits_of_mem_threadsFrom ht) _

theorem isSome_run_iff (before : Option Char) (rest : List Char) (taken q : Nat) :
    (p.run true rest taken (p.threadsFrom before rest.head? [q]) none).isSome = true ↔
      p.Reaches before rest q := by
  constructor
  · intro found
    obtain ⟨n, found⟩ := Option.isSome_iff_exists.1 found
    obtain ⟨thread, mem, reaches⟩ := reaches_of_run before found
    obtain ⟨place, mem, reaches⟩ := reaches_of_mem_threadsFrom mem reaches
    rwa [List.mem_singleton.1 mem] at reaches
  · intro reaches
    obtain ⟨thread, mem, reaches⟩ := exists_mem_threadsFrom List.mem_cons_self reaches
    exact reaches.isSome_run mem (fun t ht => waits_of_mem_threadsFrom ht) taken

instance (p : Program) (before : Option Char) (rest : List Char) :
    DecidablePred (p.Reaches before rest) := fun q =>
  decidable_of_iff _ (isSome_run_iff before rest 0 q)

/-- An anchored search finds a match exactly where the start of the program can reach a report. -/
theorem isSome_matchLength?_iff (p : Program) (text : List Char) :
    (p.matchLength? true text).isSome = true ↔ p.Reaches none text p.start :=
  isSome_run_iff none text 0 p.start

end TextCursor.Pattern.Program
