import Mathlib.Algebra.Ring.Int.Defs
import Mathlib.Algebra.Ring.Divisibility.Basic
import Mathlib.Order.Lattice
import TextCursor.Lookup

/-!
# What a slice takes

A slice is told by two bounds and a step. `everyNth` says which characters it stands for: those between
the two places at whole steps from the first, in the direction of the step. `slice_takes_every_nth` says
that the walk takes exactly these, for all bounds and steps of 64 bits.

* `clamp` computes with 64 bits what `bounded` says over all integers (`toInt_clamp`);
* the walk comes to an end before its fuel does and reads inside the text alone (`walks_walk`), where
  `Walks` is the walk without fuel;
* one step of a walk takes one character of `everyNth` and leaves the others (`everyNth_of_ahead`), so
  by induction on the walk it takes them all (`Walks.eq_everyNth`). A walk that stops because the next
  sum does not fit has nothing left to take.
-/

namespace TextCursor.Lookup

/-! ## The characters that a slice stands for -/

/-- A bound counted from the start of a text of `n` characters. -/
def resolve (n : Nat) (bound : Int64) : Int :=
  if bound.toInt < 0 then bound.toInt + n else bound.toInt

/-- A bound moved between two places, or the place that an absent bound stands for. -/
def bounded (n : Nat) (least greatest absent : Int) : Option Int64 → Int
  | none => absent
  | some bound => max least (min greatest (resolve n bound))

/-- Where a slice of `n` characters begins when it goes by steps of `d`. -/
def firstPlace (n : Nat) (d : Int) (start : Option Int64) : Int :=
  if 0 < d then bounded n 0 n 0 start else bounded n (-1) (n - 1) (n - 1) start

/-- The place before which a slice of `n` characters ends when it goes by steps of `d`. -/
def lastPlace (n : Nat) (d : Int) (stop : Option Int64) : Int :=
  if 0 < d then bounded n 0 n n stop else bounded n (-1) (n - 1) (-1) stop

/-- The characters at whole steps of `d` from the place `a`, up to the place `b` and without it: in
their order where `d` is positive, and else in the opposite one. -/
def everyNth (cs : List Char) (d a b : Int) : List Char :=
  if 0 < d then (cs.zipIdx.filter fun e => a ≤ e.2 ∧ e.2 < b ∧ d ∣ e.2 - a).map Prod.fst
  else (cs.zipIdx.reverse.filter fun e => b < e.2 ∧ e.2 ≤ a ∧ -d ∣ a - e.2).map Prod.fst

/-- Whether the place `b` lies ahead of `a` when one goes by steps of `d`. -/
def Ahead (d a b : Int) : Prop :=
  (0 < d ∧ a < b) ∨ (d < 0 ∧ b < a)

theorem everyNth_of_not_ahead {cs : List Char} {d a b : Int} (nonzero : d ≠ 0)
    (h : ¬ Ahead d a b) : everyNth cs d a b = [] := by
  unfold Ahead at h
  unfold everyNth
  split
  · rw [List.map_eq_nil_iff, List.filter_eq_nil_iff]
    intro e _
    simp only [decide_eq_true_eq]
    omega
  · rw [List.map_eq_nil_iff, List.filter_eq_nil_iff]
    intro e _
    simp only [decide_eq_true_eq]
    omega

theorem zipIdx_eq_of_getElem? {cs : List Char} {k : Nat} {c : Char} (h : cs[k]? = some c) :
    cs.zipIdx = (cs.take k).zipIdx ++ (c, k) :: (cs.drop (k + 1)).zipIdx (k + 1) := by
  obtain ⟨inside, here⟩ := List.getElem?_eq_some_iff.1 h
  have split : cs = cs.take k ++ c :: cs.drop (k + 1) := by
    rw [← here, List.getElem_cons_drop, List.take_append_drop]
  have length : (cs.take k).length = k := by
    rw [List.length_take]
    omega
  conv_lhs => rw [split, List.zipIdx_append, length, List.zipIdx_cons, Nat.zero_add]

/-- Two conditions that agree on all that follows a member, of which the first picks that member
and neither picks what precedes it. -/
theorem filter_eq_cons_filter {α : Type} {p q : α → Bool} {before after : List α} {a : α}
    (skipped : ∀ x ∈ before, p x = false ∧ q x = false) (here : p a = true ∧ q a = false)
    (agree : ∀ x ∈ after, p x = q x) :
    (before ++ a :: after).filter p = a :: (before ++ a :: after).filter q := by
  have none_p : before.filter p = [] := by
    simpa using fun x hx => (skipped x hx).1
  have none_q : before.filter q = [] := by
    simpa using fun x hx => (skipped x hx).2
  rw [List.filter_append, List.filter_append, none_p, none_q, List.filter_cons_of_pos here.1,
    List.filter_cons_of_neg (by simp [here.2]), List.filter_congr agree]
  rfl

theorem dvd_iff_of_pos {e x : Int} (h : 0 < x) : e ∣ x ↔ e ≤ x ∧ e ∣ x - e := by
  rw [dvd_sub_self_right]
  constructor
  · intro divides
    exact ⟨Int.le_of_dvd h divides, divides⟩
  · intro both
    exact both.2

theorem forwards_iff {d a b j : Int} (further : a < j) :
    (a ≤ j ∧ j < b ∧ d ∣ j - a) ↔ (a + d ≤ j ∧ j < b ∧ d ∣ j - (a + d)) := by
  have steps := dvd_iff_of_pos (e := d) (show 0 < j - a by omega)
  have shift : j - (a + d) = j - a - d := by omega
  rw [steps, shift]
  constructor
  · rintro ⟨_, below, far, whole⟩
    exact ⟨by omega, below, whole⟩
  · rintro ⟨far, below, whole⟩
    exact ⟨by omega, below, by omega, whole⟩

theorem backwards_iff {d a b j : Int} (further : j < a) :
    (b < j ∧ j ≤ a ∧ -d ∣ a - j) ↔ (b < j ∧ j ≤ a + d ∧ -d ∣ a + d - j) := by
  have steps := dvd_iff_of_pos (e := -d) (show 0 < a - j by omega)
  have shift : a + d - j = a - j - -d := by omega
  rw [steps, shift]
  constructor
  · rintro ⟨above, _, far, whole⟩
    exact ⟨above, by omega, whole⟩
  · rintro ⟨above, far, whole⟩
    exact ⟨above, by omega, by omega, whole⟩

/-- The first of the characters is the one at the place where they begin; the others are those that
begin one step further. -/
theorem everyNth_of_ahead {cs : List Char} {d a b : Int} {c : Char} (h : Ahead d a b)
    (nonneg : 0 ≤ a) (found : cs[a.toNat]? = some c) :
    everyNth cs d a b = c :: everyNth cs d (a + d) b := by
  have place : (a.toNat : Int) = a := Int.toNat_of_nonneg nonneg
  have earlier : ∀ e ∈ (cs.take a.toNat).zipIdx, (e.2 : Int) < a := by
    rintro ⟨x, j⟩ mem
    have := (List.mem_zipIdx mem).2.1
    rw [List.length_take] at this
    omega
  have later : ∀ e ∈ (cs.drop (a.toNat + 1)).zipIdx (a.toNat + 1), a < (e.2 : Int) := by
    rintro ⟨x, j⟩ mem
    have := (List.mem_zipIdx mem).1
    omega
  unfold everyNth
  rw [zipIdx_eq_of_getElem? found]
  rcases h with ⟨forwards, short⟩ | ⟨backwards, short⟩
  · rw [if_pos forwards, if_pos forwards, ← List.map_cons (f := Prod.fst) (a := (c, a.toNat))]
    congr 1
    apply filter_eq_cons_filter
    · intro e mem
      have := earlier e mem
      simp only [decide_eq_false_iff_not]
      omega
    · simp only [decide_eq_true_eq, decide_eq_false_iff_not, place, sub_self]
      exact ⟨⟨le_refl a, short, Int.dvd_zero d⟩, by omega⟩
    · intro e mem
      rw [decide_eq_decide]
      exact forwards_iff (later e mem)
  · have notForwards : ¬ 0 < d := by omega
    rw [if_neg notForwards, if_neg notForwards, ← List.map_cons (f := Prod.fst) (a := (c, a.toNat)),
      List.reverse_append, List.reverse_cons, List.append_assoc]
    congr 1
    apply filter_eq_cons_filter
    · intro e mem
      have := later e (List.mem_reverse.1 mem)
      simp only [decide_eq_false_iff_not]
      omega
    · simp only [decide_eq_true_eq, decide_eq_false_iff_not, place, sub_self]
      exact ⟨⟨short, le_refl a, Int.dvd_zero (-d)⟩, by omega⟩
    · intro e mem
      rw [decide_eq_decide]
      exact backwards_iff (earlier e (by simpa using mem))

/-! ## Sums of 64 bits -/

/-- A number that 64 bits hold with its sign. -/
def Fits (z : Int) : Prop :=
  -2 ^ 63 ≤ z ∧ z < 2 ^ 63

theorem fits_toInt (i : Int64) : Fits i.toInt :=
  ⟨i.le_toInt, i.toInt_lt⟩

theorem toInt_add_of_fits {a b : Int64} (h : Fits (a.toInt + b.toInt)) :
    (a + b).toInt = a.toInt + b.toInt := by
  obtain ⟨least, greatest⟩ := h
  rw [Int64.toInt_add]
  apply Int.bmod_eq_of_le <;> omega

theorem toInt_sub_of_fits {a b : Int64} (h : Fits (a.toInt - b.toInt)) :
    (a - b).toInt = a.toInt - b.toInt := by
  obtain ⟨least, greatest⟩ := h
  rw [Int64.toInt_sub]
  apply Int.bmod_eq_of_le <;> omega

/-- A checked sum is the sum where that fits, and is missing where it does not. -/
theorem addFits?_cases (a b : Int64) :
    (∃ sum, addFits? a b = some sum ∧ sum.toInt = a.toInt + b.toInt) ∨
      (addFits? a b = none ∧ ¬ Fits (a.toInt + b.toInt)) := by
  have limits : Int64.minValue.toInt = -2 ^ 63 ∧ Int64.maxValue.toInt = 2 ^ 63 - 1 := by decide
  unfold addFits? Fits
  dsimp only
  rw [limits.1, limits.2]
  split
  · next inside =>
    refine .inl ⟨_, rfl, Int64.toInt_ofInt_of_le inside.1 ?_⟩
    omega
  · next outside =>
    refine .inr ⟨rfl, ?_⟩
    omega

section Lengths

variable {n : Nat} (small : n < Text.signedLimit)

include small

theorem fits_length : Fits n := by
  have limit : Text.signedLimit = 9223372036854775808 := rfl
  unfold Fits
  omega

theorem toInt_add_length {bound : Int64} (negative : bound < 0) :
    (bound + Int64.ofNat n).toInt = bound.toInt + n := by
  have length := Int64.toInt_ofNat_of_lt small
  have least := bound.le_toInt
  obtain ⟨_, greatest⟩ := fits_length small
  rw [Int64.lt_iff_toInt_lt, Int64.toInt_zero] at negative
  rw [toInt_add_of_fits (by rw [length]; unfold Fits; omega), length]

theorem toInt_length_sub_one : (Int64.ofNat n - 1).toInt = n - 1 := by
  have length := Int64.toInt_ofNat_of_lt small
  obtain ⟨_, greatest⟩ := fits_length small
  rw [toInt_sub_of_fits (by rw [length, Int64.toInt_one]; unfold Fits; omega), length,
    Int64.toInt_one]

/-- Moving a bound into a text gives what it would over all integers. -/
theorem toInt_clamp (backwards : Bool) (bound : Int64) :
    (clamp (Int64.ofNat n) backwards bound).toInt =
      if backwards then max (-1) (min ((n : Int) - 1) (resolve n bound))
      else max 0 (min (n : Int) (resolve n bound)) := by
  have length := Int64.toInt_ofNat_of_lt small
  have lengthLess := toInt_length_sub_one small
  have minusOne : (-1 : Int64).toInt = -1 := by decide
  have least := bound.le_toInt
  unfold clamp resolve
  by_cases negative : bound < 0
  · have sum := toInt_add_length small negative
    rw [if_pos negative]
    rw [Int64.lt_iff_toInt_lt, Int64.toInt_zero] at negative
    rw [if_pos negative]
    simp only [Int64.lt_iff_toInt_lt, Int64.toInt_zero, sum]
    split <;> cases backwards <;> simp [minusOne, sum] <;> omega
  · rw [if_neg negative]
    rw [Int64.lt_iff_toInt_lt, Int64.toInt_zero] at negative
    rw [if_neg negative]
    simp only [Int64.le_iff_toInt_le, length]
    split <;> cases backwards <;> simp [lengthLess, length] <;> omega

end Lengths

/-! ## The walk -/

/-- A walk from a place towards another, without fuel: at each place it reads a character of the text
and goes on by a step, unless the sum does not fit. -/
inductive Walks (cs : List Char) (stop step : Int64) : Int64 → List Char → Prop
  | finish {i : Int64} : ¬ Ahead step.toInt i.toInt stop.toInt → Walks cs stop step i []
  | leave {i : Int64} {c : Char} : Ahead step.toInt i.toInt stop.toInt → 0 ≤ i.toInt →
      cs[i.toInt.toNat]? = some c → ¬ Fits (i.toInt + step.toInt) → Walks cs stop step i [c]
  | go {i next : Int64} {c : Char} {taken : List Char} : Ahead step.toInt i.toInt stop.toInt →
      0 ≤ i.toInt → cs[i.toInt.toNat]? = some c → next.toInt = i.toInt + step.toInt →
      Walks cs stop step next taken → Walks cs stop step i (c :: taken)

/-- Where a walk from `i` to `stop` keeps inside a text of `n` characters. -/
structure Inside (n : Nat) (step i stop : Int) : Prop where
  forwards : 0 < step → 0 ≤ i ∧ stop ≤ n
  backwards : step < 0 → i < n ∧ -1 ≤ stop

theorem Inside.next {n : Nat} {step i stop : Int} (h : Inside n step i stop) :
    Inside n step (i + step) stop := by
  constructor
  · intro positive
    have := h.forwards positive
    omega
  · intro negative
    have := h.backwards negative
    omega

theorem Inside.lt {n : Nat} {step i stop : Int} (h : Inside n step i stop)
    (ahead : Ahead step i stop) : 0 ≤ i ∧ i < n := by
  rcases ahead with ⟨positive, short⟩ | ⟨negative, short⟩
  · have := h.forwards positive
    omega
  · have := h.backwards negative
    omega

theorem ahead_iff {stop step i : Int64} :
    ((0 < step && i < stop) || (step < 0 && stop < i)) = true ↔
      Ahead step.toInt i.toInt stop.toInt := by
  simp [Ahead, Int64.lt_iff_toInt_lt]

/-- A walk inside a text ends before its fuel does, if that is more than the way. -/
theorem walks_walk {cs : List Char} {stop step i : Int64} {fuel : Nat}
    (inside : Inside cs.length step.toInt i.toInt stop.toInt)
    (forwards : 0 < step.toInt → stop.toInt - i.toInt ≤ fuel)
    (backwards : step.toInt < 0 → i.toInt - stop.toInt ≤ fuel) :
    Walks cs stop step i (walk cs.toArray stop step fuel i) := by
  induction fuel generalizing i with
  | zero =>
    refine .finish ?_
    unfold Ahead
    omega
  | succ fuel ih =>
    unfold walk
    by_cases ahead : Ahead step.toInt i.toInt stop.toInt
    · obtain ⟨nonneg, less⟩ := inside.lt ahead
      have read : cs[i.toInt.toNat]? = some cs[i.toInt.toNat] :=
        List.getElem?_eq_getElem (by omega)
      rw [if_pos (ahead_iff.2 ahead), List.getElem?_toArray, read]
      rcases addFits?_cases i step with ⟨next, sum, value⟩ | ⟨missing, outside⟩
      · have inside' : Inside cs.length step.toInt next.toInt stop.toInt := by
          rw [value]
          exact inside.next
        rw [sum]
        -- each step is at least one place long, so the way left is shorter
        exact .go ahead nonneg read value (ih inside' (by omega) (by omega))
      · rw [missing]
        exact .leave ahead nonneg read outside
    · rw [if_neg (by rwa [ahead_iff])]
      exact .finish ahead

/-- A walk takes the characters at whole steps on its way. -/
theorem Walks.eq_everyNth {cs taken : List Char} {stop step i : Int64} (nonzero : step.toInt ≠ 0)
    (h : Walks cs stop step i taken) : taken = everyNth cs step.toInt i.toInt stop.toInt := by
  induction h with
  | finish arrived => rw [everyNth_of_not_ahead nonzero arrived]
  | @leave i c ahead nonneg read outside =>
    rw [everyNth_of_ahead ahead nonneg read, everyNth_of_not_ahead nonzero]
    -- a place that 64 bits do not hold lies beyond every stop that they hold
    intro further
    have here := fits_toInt i
    have there := fits_toInt stop
    unfold Ahead at ahead further
    unfold Fits at outside here there
    omega
  | go ahead nonneg read value _ ih =>
    rw [everyNth_of_ahead ahead nonneg read, ih, value]

/-! ## Slices -/

/-- A bound of a slice, or the place that stands for it, as it is found with 64 bits. -/
theorem toInt_placed {n : Nat} (small : n < Text.signedLimit) {d : Int64} (nonzero : d.toInt ≠ 0)
    {front back : Int64} {p q : Int} (hfront : front.toInt = p) (hback : back.toInt = q)
    (bound : Option Int64) :
    ((bound.map (clamp (Int64.ofNat n) (d < 0))).getD (if d < 0 then back else front)).toInt =
      if 0 < d.toInt then bounded n 0 n p bound else bounded n (-1) (n - 1) q bound := by
  by_cases backwards : d < 0
  · have notForwards : ¬ 0 < d.toInt := by
      rw [Int64.lt_iff_toInt_lt, Int64.toInt_zero] at backwards
      omega
    rw [if_pos backwards, if_neg notForwards, decide_eq_true backwards]
    cases bound with
    | none => exact hback
    | some b => exact toInt_clamp small true b
  · have forwards : 0 < d.toInt := by
      rw [Int64.lt_iff_toInt_lt, Int64.toInt_zero] at backwards
      omega
    rw [if_neg backwards, if_pos forwards, decide_eq_false backwards]
    cases bound with
    | none => exact hfront
    | some b => exact toInt_clamp small false b

/-- The places that a slice is bounded by lie in the text, or next to it on the side where it ends. -/
theorem inside_places (n : Nat) (d : Int) (start stop : Option Int64) :
    Inside n d (firstPlace n d start) (lastPlace n d stop) := by
  constructor
  · intro positive
    rw [firstPlace, lastPlace, if_pos positive, if_pos positive]
    cases start <;> cases stop <;> simp only [bounded] <;> omega
  · intro negative
    rw [firstPlace, lastPlace, if_neg (by omega), if_neg (by omega)]
    cases start <;> cases stop <;> simp only [bounded] <;> omega

theorem toInt_stride_ne_zero {step : Option Int64} (h : step ≠ some 0) : (step.getD 1).toInt ≠ 0 := by
  cases step with
  | none => decide
  | some d =>
    intro zero
    rw [Option.getD_some, ← Int64.toInt_zero, Int64.toInt_inj] at zero
    exact h (congrArg some zero)

/-- A slice whose step is not zero is what a walk between its places takes. -/
theorem slice_eq_walk {text : String} (small : text.length < Text.signedLimit) {step : Option Int64}
    (h : step ≠ some 0) (start stop : Option Int64) :
    ∃ first last : Int64,
      first.toInt = firstPlace text.length (step.getD 1).toInt start ∧
      last.toInt = lastPlace text.length (step.getD 1).toInt stop ∧
      slice text start stop step = .ok (String.ofList
        (walk text.toList.toArray last (step.getD 1) (text.length + 1) first)) := by
  have nonzero := toInt_stride_ne_zero h
  have size : text.toList.toArray.size = text.length := by
    rw [List.size_toArray, String.length_toList]
  unfold slice
  rw [if_neg h]
  dsimp only
  rw [size]
  exact ⟨_, _,
    toInt_placed small nonzero Int64.toInt_zero (toInt_length_sub_one small) start,
    toInt_placed small nonzero (Int64.toInt_ofNat_of_lt small) (by decide) stop, rfl⟩

theorem walks_of_places {cs : List Char} {n : Nat} (length : cs.length = n)
    {first last step : Int64} {start stop : Option Int64}
    (hfirst : first.toInt = firstPlace n step.toInt start)
    (hlast : last.toInt = lastPlace n step.toInt stop) :
    Walks cs last step first (walk cs.toArray last step (n + 1) first) := by
  have inside := inside_places n step.toInt start stop
  rw [← hfirst, ← hlast] at inside
  refine walks_walk (length ▸ inside) ?_ ?_
  · intro positive
    have := inside.forwards positive
    omega
  · intro negative
    have := inside.backwards negative
    omega

/-- A slice takes the characters at whole steps between its places. -/
theorem slice_eq_everyNth {text : String} (small : text.length < Text.signedLimit)
    {step : Option Int64} (h : step ≠ some 0) (start stop : Option Int64) :
    slice text start stop step = .ok (String.ofList (everyNth text.toList (step.getD 1).toInt
      (firstPlace text.length (step.getD 1).toInt start)
      (lastPlace text.length (step.getD 1).toInt stop))) := by
  obtain ⟨first, last, hfirst, hlast, ok⟩ := slice_eq_walk small h start stop
  have walks := walks_of_places String.length_toList hfirst hlast
  rw [ok, walks.eq_everyNth (toInt_stride_ne_zero h), hfirst, hlast]

/-- **A slice takes the characters at whole steps between its bounds.** A slice with step zero is
refused, and any other one gives the characters at whole steps from the first place of the slice to
before the last, both of which are found over all integers. It does so by a walk that ends and reads in
the text alone, and the sums with which the places are found have the values that they have over all
integers. -/
theorem slice_takes_every_nth {text : String} (small : text.length < Text.signedLimit)
    (start stop step : Option Int64) :
    ((∃ e, slice text start stop step = .error e) ↔ step = some 0) ∧
    (step = some 0 → slice text start stop step = .error (.zeroStep (.slice start stop step)) ∧
      (ScanError.zeroStep (.slice start stop step)).message =
        "Invalid index: " ++ (Key.slice start stop step).toText
          ++ ": slice step cannot be zero") ∧
    (step ≠ some 0 →
      let d := step.getD 1
      let taken := everyNth text.toList d.toInt (firstPlace text.length d.toInt start)
        (lastPlace text.length d.toInt stop)
      slice text start stop step = .ok (String.ofList taken) ∧
      ∃ first last : Int64, first.toInt = firstPlace text.length d.toInt start ∧
        last.toInt = lastPlace text.length d.toInt stop ∧
        Walks text.toList last d first taken) ∧
    (∀ bound : Int64, bound < 0 →
      (bound + Int64.ofNat text.length).toInt = bound.toInt + text.length) ∧
    (Int64.ofNat text.length - 1).toInt = text.length - 1 := by
  have walked (h : step ≠ some 0) := slice_eq_walk small h start stop
  refine ⟨⟨?_, ?_⟩, ?_, ?_, fun _ negative => toInt_add_length small negative,
    toInt_length_sub_one small⟩
  · rintro ⟨e, failed⟩
    by_contra h
    obtain ⟨_, _, _, _, ok⟩ := walked h
    rw [ok] at failed
    cases failed
  · intro zero
    exact ⟨_, if_pos zero⟩
  · intro zero
    exact ⟨if_pos zero, rfl⟩
  · intro h
    obtain ⟨first, last, hfirst, hlast, ok⟩ := walked h
    have walks := walks_of_places String.length_toList hfirst hlast
    have all := walks.eq_everyNth (toInt_stride_ne_zero h)
    rw [hfirst, hlast] at all
    rw [all] at walks ok
    exact ⟨ok, first, last, hfirst, hlast, walks⟩

/-- Backwards from a bound outside the text, forwards by the greatest step, and by none. -/
theorem slice_takes_from_far_bounds :
    "héllo".length < Text.signedLimit ∧ some (-2 : Int64) ≠ some 0 ∧
    everyNth "héllo".toList (-2) 4 (-1) = ['o', 'l', 'h'] ∧
    slice "héllo" (some 10) none (some (-2)) = .ok "olh" ∧
    (∃ first last : Int64, first.toInt = 4 ∧ last.toInt = -1 ∧
      Walks "héllo".toList last (-2) first ['o', 'l', 'h']) ∧
    slice "héllo" (some 1) none (some Int64.maxValue) = .ok "é" ∧
    slice "héllo" none (some (-9)) (some 0) =
      .error (.zeroStep (.slice none (some (-9)) (some 0))) := by
  have small : "héllo".length < Text.signedLimit := by decide
  have nonzero : some (-2 : Int64) ≠ some 0 := by decide
  have huge : some Int64.maxValue ≠ some 0 := by decide
  obtain ⟨ok, walk⟩ := (slice_takes_every_nth small (some 10) none (some (-2))).2.2.1 nonzero
  obtain ⟨ok', _⟩ := (slice_takes_every_nth small (some 1) none (some Int64.maxValue)).2.2.1 huge
  obtain ⟨refused, _⟩ := (slice_takes_every_nth small none (some (-9)) (some 0)).2.1 rfl
  exact ⟨small, nonzero, by decide, ok, walk, ok', refused⟩

end TextCursor.Lookup
