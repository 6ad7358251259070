import TextCursor.Proofs.Lookup.Slice

/-!
# Places of a text

What a key gives is made of characters of the text, or an error that says why it gives nothing
(`get_cases`).

Looking up a place computes with 64 bits what `resolve` says over all integers: `charAt_eq` gives
the character at the resolved place, or the error where the text has no such place. A slice from a
place of the text begins with the character there, by whatever steps it goes (`slice_begins`). A slice
by steps of one is a piece of the text (`everyNth_one`), so between two places it is what dropping and
taking characters gives (`slice_between`, `slice_from`), and just the one character where it stops
behind that (`slice_stopBehind`).
-/

namespace TextCursor.Lookup

/-! ## What a key may give -/

theorem mem_of_mem_walk {cs : Array Char} {stop step i : Int64} {fuel : Nat} {c : Char}
    (h : c ∈ walk cs stop step fuel i) : c ∈ cs.toList := by
  induction fuel generalizing i with
  | zero => cases h
  | succ fuel ih =>
    rw [walk] at h
    split at h
    · split at h
      · next d found =>
        rcases List.mem_cons.1 h with rfl | h
        · exact Array.mem_toList_iff.2 (Array.mem_of_getElem? found)
        · split at h
          · exact ih h
          · cases h
      · cases h
    · cases h

/-- At a place there is a character of the text, or the place is outside. -/
theorem charAt_cases (text : String) (index : Int64) :
    (∃ c ∈ text.toList, charAt text index = .ok c) ∨
      charAt text index = .error (.outOfRange index.toInt text.length) := by
  rw [charAt, String.length_toList]
  dsimp only
  generalize (if index < 0 then index + Int64.ofNat text.length else index) = resolved
  split
  · split
    · exact .inr rfl
    · split
      · next c found => exact .inl ⟨c, List.mem_of_getElem? found, rfl⟩
      · exact .inr rfl
  · exact .inr rfl

/-- A key gives characters of the text, or it names a place outside or has step zero. -/
theorem get_cases (text : String) (key : Key) :
    (∃ cs, cs ⊆ text.toList ∧ get text key = .ok (String.ofList cs)) ∨
      (∃ index, get text key = .error (.outOfRange index text.length)) ∨
      get text key = .error (.zeroStep key) := by
  cases key with
  | place i =>
    rw [get]
    rcases charAt_cases text i with ⟨c, among, found⟩ | outside
    · refine .inl ⟨[c], List.cons_subset.2 ⟨among, List.nil_subset _⟩, ?_⟩
      rw [found]
      rfl
    · refine .inr (.inl ⟨i.toInt, ?_⟩)
      rw [outside]
      rfl
  | slice start stop step =>
    rw [get, slice]
    split
    · exact .inr (.inr rfl)
    · exact .inl ⟨_, fun c mem => mem_of_mem_walk mem, rfl⟩

/-- Just the slices with step zero are refused for their step, and each is then named itself. -/
theorem get_eq_zeroStep_iff {text : String} {key key' : Key} :
    get text key = .error (.zeroStep key') ↔
      key' = key ∧ ∃ start stop, key = .slice start stop (some 0) := by
  constructor
  · intro refused
    rcases get_cases text key with ⟨cs, -, got⟩ | ⟨index, got⟩ | got
    · simp [got] at refused
    · simp [got] at refused
    · rw [got] at refused
      cases refused
      refine ⟨rfl, ?_⟩
      cases key with
      | place i =>
        rw [get] at got
        rcases charAt_cases text i with ⟨c, -, found⟩ | outside
        · simp [found, Except.map] at got
        · simp [outside, Except.map] at got
      | slice start stop step =>
        rw [get, slice] at got
        split at got
        · next zero => exact ⟨start, stop, by rw [zero]⟩
        · cases got
  · rintro ⟨rfl, start, stop, rfl⟩
    rw [get, slice, if_pos rfl]

/-! ## One place -/

section Lengths

variable {n : Nat} (small : n < Text.signedLimit)

include small

/-- An index resolved with 64 bits is the one resolved over all integers. -/
theorem toInt_resolved (i : Int64) :
    (if i < 0 then i + Int64.ofNat n else i).toInt = resolve n i := by
  unfold resolve
  by_cases negative : i < 0
  · have sum := toInt_add_length small negative
    rw [if_pos negative, sum]
    rw [Int64.lt_iff_toInt_lt, Int64.toInt_zero] at negative
    rw [if_pos negative]
  · rw [if_neg negative]
    rw [Int64.lt_iff_toInt_lt, Int64.toInt_zero] at negative
    rw [if_neg negative]

end Lengths

/-- The character at a place, found over all integers. -/
theorem charAt_eq {text : String} (small : text.length < Text.signedLimit) (i : Int64) :
    charAt text i =
      if 0 ≤ resolve text.length i then
        match text.toList[(resolve text.length i).toNat]? with
        | some ch => .ok ch
        | none => .error (.outOfRange i.toInt text.length)
      else .error (.outOfRange i.toInt text.length) := by
  have length := Int64.toInt_ofNat_of_lt small
  have resolved := toInt_resolved small i
  unfold charAt
  dsimp only
  rw [String.length_toList, if_pos small]
  generalize (if i < 0 then i + Int64.ofNat text.length else i) = place at resolved ⊢
  rw [← resolved]
  by_cases nonneg : 0 ≤ place.toInt
  · rw [if_pos nonneg]
    by_cases inside : place.toInt < text.length
    · have accepted : ¬ (place < 0 || Int64.ofNat text.length ≤ place) = true := by
        simp [Int64.lt_iff_toInt_lt, Int64.le_iff_toInt_le, length, nonneg, inside]
      exact if_neg accepted
    · have refused : (place < 0 || Int64.ofNat text.length ≤ place) = true := by
        simp [Int64.le_iff_toInt_le, length]
        omega
      have nothing : text.toList[place.toInt.toNat]? = none := by
        rw [List.getElem?_eq_none_iff, String.length_toList]
        omega
      rw [if_pos refused, nothing]
  · have refused : (place < 0 || Int64.ofNat text.length ≤ place) = true := by
      simp [Int64.lt_iff_toInt_lt]
      omega
    rw [if_pos refused, if_neg nonneg]

theorem resolve_ofNat {k : Nat} (h : k < Text.signedLimit) (n : Nat) :
    resolve n (Int64.ofNat k) = k := by
  have value := Int64.toInt_ofNat_of_lt h
  rw [resolve, value, if_neg (by omega)]

theorem charAt_ofNat {text : String} (small : text.length < Text.signedLimit) {k : Nat}
    (h : k < Text.signedLimit) :
    charAt text (Int64.ofNat k) =
      match text.toList[k]? with
      | some ch => .ok ch
      | none => .error (.outOfRange k text.length) := by
  rw [charAt_eq small, resolve_ofNat h, if_pos (Int.natCast_nonneg k), Int.toNat_natCast,
    Int64.toInt_ofNat_of_lt h]

/-- The places that a text has are those that the index resolves to. -/
theorem resolve_inside_iff {n : Nat} {i : Int64} :
    (0 ≤ resolve n i ∧ resolve n i < n) ↔ -(n : Int) ≤ i.toInt ∧ i.toInt < n := by
  unfold resolve
  omega

theorem charAt_of_inside {text : String} (small : text.length < Text.signedLimit) {i : Int64}
    {k : Nat} {ch : Char} (place : resolve text.length i = k) (found : text.toList[k]? = some ch) :
    charAt text i = .ok ch := by
  rw [charAt_eq small, place, if_pos (Int.natCast_nonneg k), Int.toNat_natCast, found]

theorem charAt_of_outside {text : String} (small : text.length < Text.signedLimit) {i : Int64}
    (outside : ¬ (0 ≤ resolve text.length i ∧ resolve text.length i < text.length)) :
    charAt text i = .error (.outOfRange i.toInt text.length) := by
  rw [charAt_eq small]
  split
  · next nonneg =>
    have nothing : text.toList[(resolve text.length i).toNat]? = none := by
      rw [List.getElem?_eq_none_iff, String.length_toList]
      omega
    rw [nothing]
  · rfl

/-! ## Slices from a place -/

/-- From a place of the text a slice begins at that place. -/
theorem firstPlace_of_inside {n k : Nat} {i : Int64} (place : resolve n i = k) (inside : k < n)
    (d : Int) : firstPlace n d (some i) = k := by
  rw [firstPlace, bounded, bounded, place]
  split
  · omega
  · omega

/-- A slice that has no stop goes on over all places that are left in its direction. -/
theorem ahead_lastPlace {n k : Nat} (inside : k < n) {d : Int} (nonzero : d ≠ 0) :
    Ahead d k (lastPlace n d none) := by
  rw [Ahead, lastPlace, bounded, bounded]
  split
  · omega
  · omega

/-- A slice from a place of the text begins with the character there, by whatever steps it goes. -/
theorem slice_begins {text : String} (small : text.length < Text.signedLimit) {i d : Int64}
    {k : Nat} {ch : Char} (place : resolve text.length i = k) (found : text.toList[k]? = some ch)
    (nonzero : d ≠ 0) :
    ∃ rest, slice text (some i) none (some d) = .ok (String.singleton ch ++ rest) := by
  have step : some d ≠ some 0 := mt Option.some.inj nonzero
  have inside : k < text.length := by
    rw [← String.length_toList]
    exact (List.getElem?_eq_some_iff.1 found).1
  rw [slice_eq_everyNth small step, firstPlace_of_inside place inside,
    everyNth_of_ahead (ahead_lastPlace inside (toInt_stride_ne_zero step)) (Int.natCast_nonneg k)
      (by rwa [Int.toNat_natCast])]
  generalize everyNth text.toList _ _ _ = others
  refine ⟨String.ofList others, ?_⟩
  rw [String.singleton_eq_ofList, ← String.ofList_append]
  rfl

/-! ## Steps of one -/

/-- The characters at steps of one are a piece of the text. -/
theorem everyNth_one {cs : List Char} {a b : Nat} (inside : b ≤ cs.length) :
    everyNth cs 1 a b = (cs.take b).drop a := by
  induction way : b - a generalizing a with
  | zero =>
    have arrived : ¬ Ahead 1 a b := by
      unfold Ahead
      omega
    rw [everyNth_of_not_ahead (by decide) arrived, List.drop_eq_nil_of_le]
    rw [List.length_take]
    omega
  | succ way ih =>
    have ahead : Ahead 1 a b := .inl ⟨by decide, by omega⟩
    have short : a < (cs.take b).length := by
      rw [List.length_take]
      omega
    have here : (cs.take b)[a] = cs[a] := List.getElem_take
    have found : cs[(a : Int).toNat]? = some cs[a] := List.getElem?_eq_getElem (by omega)
    have next : (a : Int) + 1 = (a + 1 : Nat) := rfl
    rw [everyNth_of_ahead ahead (Int.natCast_nonneg a) found, next, ih (by omega),
      List.drop_eq_getElem_cons short, here]

/-- A slice by steps of one, with its places found over all integers. -/
theorem slice_one {text : String} (small : text.length < Text.signedLimit)
    (start stop : Option Int64) {a b : Nat} (first : firstPlace text.length 1 start = a)
    (last : lastPlace text.length 1 stop = b) (inside : b ≤ text.length) :
    slice text start stop none = .ok (String.ofList ((text.toList.take b).drop a)) := by
  rw [slice_eq_everyNth small (by decide), Option.getD_none, Int64.toInt_one, first, last,
    everyNth_one (by rwa [String.length_toList])]

theorem firstPlace_ofNat {k : Nat} (h : k < Text.signedLimit) (n : Nat) :
    firstPlace n 1 (some (Int64.ofNat k)) = (min n k : Nat) := by
  rw [firstPlace, if_pos (by decide), bounded, resolve_ofNat h]
  omega

theorem lastPlace_ofNat {k : Nat} (h : k < Text.signedLimit) (n : Nat) :
    lastPlace n 1 (some (Int64.ofNat k)) = (min n k : Nat) := by
  rw [lastPlace, if_pos (by decide), bounded, resolve_ofNat h]
  omega

/-- A slice from one place to another is the text up to the second without the text up to the first.
-/
theorem slice_between {text : String} (small : text.length < Text.signedLimit) {a b : Nat}
    (ha : a < Text.signedLimit) (hb : b < Text.signedLimit) :
    slice text (some (Int64.ofNat a)) (some (Int64.ofNat b)) none =
      .ok (String.ofList ((text.toList.take b).drop a)) := by
  rw [slice_one small _ _ (firstPlace_ofNat ha text.length) (lastPlace_ofNat hb text.length)
    (Nat.min_le_left _ _)]
  have taken : text.toList.take (min text.length b) = text.toList.take b := by
    rw [List.take_eq_take_iff, String.length_toList]
    omega
  rw [taken]
  rcases Nat.le_total a text.length with inside | outside
  · rw [Nat.min_eq_right inside]
  · -- nothing is left from behind the end on
    have short : (text.toList.take b).length ≤ text.length := by
      rw [← String.length_toList]
      exact List.length_take_le' b text.toList
    rw [Nat.min_eq_left outside, List.drop_eq_nil_of_le short,
      List.drop_eq_nil_of_le (Nat.le_trans short outside)]

/-- A slice from a place on is the text without what lies before. -/
theorem slice_from {text : String} (small : text.length < Text.signedLimit) {a : Nat}
    (ha : a ≤ text.length) :
    slice text (some (Int64.ofNat a)) none none = .ok (String.ofList (text.toList.drop a)) := by
  have first := firstPlace_ofNat (Nat.lt_of_le_of_lt ha small) text.length
  rw [Nat.min_eq_right ha] at first
  have last : lastPlace text.length 1 none = text.length := by
    rw [lastPlace, if_pos (by decide), bounded]
  rw [slice_one small _ _ first last (Nat.le_refl _), ← String.length_toList, List.take_length]

/-! ## Slices of one character -/

theorem toInt_add_one {n : Nat} (small : n < Text.signedLimit) {i : Int64} (below : i.toInt < n) :
    (i + 1).toInt = i.toInt + 1 := by
  have least := i.le_toInt
  obtain ⟨-, greatest⟩ := fits_length small
  rw [toInt_add_of_fits (by rw [Int64.toInt_one]; unfold Fits; omega), Int64.toInt_one]

/-- The index after one resolves to the place behind, unless it is zero and so counts from the other
end. -/
theorem resolve_add_one {n : Nat} (small : n < Text.signedLimit) {i : Int64} (below : i.toInt < n)
    (notLast : i ≠ -1) : resolve n (i + 1) = resolve n i + 1 := by
  have sum := toInt_add_one small below
  have value : i.toInt ≠ (-1 : Int64).toInt := mt Int64.toInt_inj.1 notLast
  have minusOne : (-1 : Int64).toInt = -1 := by decide
  unfold resolve
  rw [sum]
  omega

/-- The stop of a slice that ends behind the character at an index. -/
def stopBehind (i : Int64) : Option Int64 :=
  if i = -1 then none else some (i + 1)

theorem lastPlace_stopBehind {n k : Nat} (small : n < Text.signedLimit) {i : Int64}
    (place : resolve n i = k) (inside : k < n) :
    lastPlace n 1 (stopBehind i) = (k + 1 : Nat) := by
  rw [lastPlace, if_pos (by decide), stopBehind]
  split
  · next last =>
    have value : (-1 : Int64).toInt = -1 := by decide
    rw [last, resolve, value, if_pos (by decide)] at place
    rw [bounded]
    omega
  · next notLast =>
    have below : i.toInt < n := by
      rw [resolve] at place
      omega
    rw [bounded, resolve_add_one small below notLast, place]
    omega

theorem slice_stopBehind {text : String} (small : text.length < Text.signedLimit) {i : Int64}
    {k : Nat} {ch : Char} (place : resolve text.length i = k) (found : text.toList[k]? = some ch) :
    slice text (some i) (stopBehind i) none = .ok (String.singleton ch) := by
  obtain ⟨inside, here⟩ := List.getElem?_eq_some_iff.1 found
  rw [String.length_toList] at inside
  rw [slice_one small _ _ (firstPlace_of_inside place inside 1)
    (lastPlace_stopBehind small place inside) inside, List.drop_take, Nat.add_sub_cancel_left,
    List.drop_eq_getElem_cons (by rwa [String.length_toList]), here, String.singleton_eq_ofList]
  rfl

end TextCursor.Lookup
