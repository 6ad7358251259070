import Mathlib.Data.String.Basic
import TextCursor.Proofs.Json.Grammar

/-!
# Texts that break off

`Cut p w` says that `p` is what is left of `w` when it breaks off early. A string that breaks off,
in any spelling and anywhere, is found to end too early (`Quoted.readString_cut`), and so is a word.

A number that breaks off is a number again, as long as a digit is left: it is read, and then nothing
follows. `Exhausts` says that reading fails or that it leaves nothing, and `exhausts_of_cut` that with
space around a value it is the same.
-/

namespace TextCursor.Json

open Text (hexDigit?)

/-! ## Breaking off -/

/-- The first text is a beginning of the second, without its last character at least. -/
inductive Cut : List Char → List Char → Prop
  | nil {c : Char} {cs : List Char} : Cut [] (c :: cs)
  | cons {c : Char} {p cs : List Char} : Cut p cs → Cut (c :: p) (c :: cs)

section Cuts

variable {p w w' : List Char}

theorem cut_append_of_ne_nil (h : w ≠ []) : Cut p (p ++ w) := by
  induction p with
  | nil =>
    obtain ⟨c, cs, rfl⟩ := List.exists_cons_of_ne_nil h
    exact .nil
  | cons c p ih => exact .cons ih

/-- What is left of a text of two parts is cut in the first or in the second. -/
theorem Cut.of_append (h : Cut p (w ++ w')) : Cut p w ∨ ∃ q, p = w ++ q ∧ Cut q w' := by
  induction w generalizing p with
  | nil => exact .inr ⟨p, rfl, h⟩
  | cons c w ih =>
    cases h with
    | nil => exact .inl .nil
    | cons h =>
      rcases ih h with cut | ⟨q, rfl, cut⟩
      · exact .inl (.cons cut)
      · exact .inr ⟨q, rfl, cut⟩

theorem Cut.mem (h : Cut p w) : ∀ c ∈ p, c ∈ w := by
  induction h with
  | nil => nofun
  | cons _ ih =>
    intro c mem
    rcases List.mem_cons.1 mem with rfl | mem
    · exact List.mem_cons_self
    · exact List.mem_cons_of_mem _ (ih c mem)

theorem Cut.length_lt (h : Cut p w) : p.length < w.length := by
  induction h with
  | nil => exact Nat.succ_pos _
  | cons _ ih => exact Nat.succ_lt_succ ih

theorem Cut.space (h : Cut p w) (space : Space w) : Space p :=
  fun c mem => space c (h.mem c mem)

/-- A text of one character that breaks off is empty. -/
theorem Cut.eq_nil {c : Char} (h : Cut p [c]) : p = [] := by
  cases h with
  | nil => rfl
  | cons h => cases h

/-- What is left of space and a visible character with all that follows it is space, or goes on behind
that character. -/
theorem Cut.of_visible {ws : List Char} {c : Char} (h : Cut p (ws ++ c :: w)) (space : Space ws) :
    Space p ∨ ∃ q, p = ws ++ c :: q ∧ Cut q w := by
  rcases h.of_append with cut | ⟨q, rfl, cut⟩
  · exact .inl (cut.space space)
  · cases cut with
    | nil => exact .inl (by rwa [List.append_nil])
    | cons cut => exact .inr ⟨_, rfl, cut⟩

end Cuts

/-! ## Words and numbers -/

theorem expect_cut {p wanted : List Char} (h : Cut p wanted) : expect wanted p = .error .truncated := by
  induction h with
  | nil => rfl
  | cons _ ih => rw [expect, if_pos rfl, ih]

/-- The digits of a number that breaks off are those of another, unless there are none. -/
theorem Whole.of_cut {p ds : List Char} (h : Whole ds) (cut : Cut p ds) : p = [] ∨ Whole p := by
  cases h with
  | zero => exact .inl cut.eq_nil
  | digits head digits =>
    have some := fun d mem => digits d (cut.mem d mem)
    cases cut with
    | nil => exact .inl rfl
    | cons _ => exact .inr (.digits head some)

/-- The number does not get greater. -/
theorem Cut.ofDigitChars_le {p ds : List Char} (h : Cut p ds) (n : Nat) :
    Nat.ofDigitChars 10 p n ≤ Nat.ofDigitChars 10 ds n := by
  induction h generalizing n with
  | nil => exact le_ofDigitChars _ n
  | cons _ ih =>
    rw [Nat.ofDigitChars_cons, Nat.ofDigitChars_cons]
    exact ih _

/-! ## Strings -/

theorem utf8Size_of_hexDigit? {c : Char} {n : Nat} (h : hexDigit? c = some n) : c.utf8Size = 1 := by
  rw [Char.utf8Size_eq_one_iff]
  unfold hexDigit? at h
  split_ifs at h with digit lower upper
  · exact UInt32.le_trans digit.2 (by decide : '9'.val ≤ 127)
  · exact UInt32.le_trans lower.2 (by decide : 'f'.val ≤ 127)
  · exact UInt32.le_trans upper.2 (by decide : 'F'.val ≤ 127)

theorem utf8Size_of_hexUnit? {w x y z : Char} {n : Nat} (h : hexUnit? w x y z = some n) :
    ∀ c ∈ [w, x, y, z], c.utf8Size = 1 := by
  simp only [hexUnit?, bind, Option.bind_eq_some_iff] at h
  obtain ⟨_, first, _, second, _, third, _, fourth, _⟩ := h
  simp [utf8Size_of_hexDigit? first, utf8Size_of_hexDigit? second, utf8Size_of_hexDigit? third,
    utf8Size_of_hexDigit? fourth]

/-- Fewer than four hexadecimal digits are fewer than four bytes. -/
theorem readUnit_cut {w x y z : Char} {n : Nat} (h : hexUnit? w x y z = some n) {p : List Char}
    (cut : Cut p [w, x, y, z]) : readUnit p = .error .truncated := by
  have bytes : String.utf8Len p = p.length := by
    have ascii := fun c mem => utf8Size_of_hexUnit? h c (cut.mem c mem)
    clear cut
    induction p with
    | nil => rfl
    | cons c p ih =>
      rw [String.utf8Len_cons, List.length_cons, ascii c List.mem_cons_self,
        ih fun d mem => ascii d (List.mem_cons_of_mem c mem)]
  have short := cut.length_lt
  have few : (String.ofList p).utf8ByteSize < 4 := by
    rw [String.utf8ByteSize_ofList, bytes]
    exact short
  rw [readUnit, if_pos few]
  rintro a b c d rest rfl
  simp only [List.length_cons, List.length_nil] at short
  omega

section Pieces

variable {escape : List Char → Except ReadError (List Char × List Char)}

theorem readChars_nil (fuel : Nat) : readChars escape fuel [] = .error .truncated := by
  cases fuel <;> rfl

theorem readChars_escape_cut {cs : List Char} (h : escape cs = .error .truncated) (fuel : Nat) :
    readChars escape fuel ('\\' :: cs) = .error .truncated := by
  cases fuel with
  | zero => rfl
  | succ fuel =>
    rw [readChars, if_neg (by decide), if_pos rfl, h]
    rfl

/-- Reading a string ends too early wherever the piece breaks off. -/
def Breaks (escape : List Char → Except ReadError (List Char × List Char)) (piece : List Char) :
    Prop :=
  ∀ p, Cut p piece → ∀ fuel, readChars escape fuel p = .error .truncated

/-- If each piece that breaks off is found to do so, the whole is. -/
theorem readChars_cut {ps ts : List (List Char)}
    (h : List.Forall₂ (fun p t => Takes escape p t ∧ Breaks escape p) ps ts) :
    Breaks escape (ps.flatten ++ ['"']) := by
  intro p cut fuel
  induction h generalizing p fuel with
  | nil =>
    rw [cut.eq_nil]
    exact readChars_nil fuel
  | @cons piece t ps ts one _ ih =>
    rw [List.flatten_cons, List.append_assoc] at cut
    rcases cut.of_append with inside | ⟨q, rfl, behind⟩
    · exact one.2 p inside fuel
    · cases fuel with
      | zero => rfl
      | succ fuel =>
        rw [one.1.readChars, ih q behind]
        rfl

end Pieces

theorem readEscape_unit_cut {w x y z : Char} {n : Nat} (h : hexUnit? w x y z = some n) {p : List Char}
    (cut : Cut p ['u', w, x, y, z]) : readEscape p = .error .truncated := by
  cases cut with
  | nil => rfl
  | cons cut =>
    rw [readEscape, readUnit_cut h cut]
    rfl

theorem readEscape_pair_cut {w x y z w' x' y' z' : Char} {m n : Nat}
    (h : hexUnit? w x y z = some m) (leading : isLeading m = true) (first : isTrailing m = false)
    (h' : hexUnit? w' x' y' z' = some n) {p : List Char}
    (cut : Cut p ['u', w, x, y, z, '\\', 'u', w', x', y', z']) :
    readEscape p = .error .truncated := by
  have parts : Cut p (['u', w, x, y, z] ++ ['\\', 'u', w', x', y', z']) := cut
  rcases parts.of_append with inside | ⟨q, rfl, behind⟩
  · exact readEscape_unit_cut h inside
  · -- the first of the pair is there
    have second : readTrailing m q = .error .truncated := by
      cases behind with
      | nil => rfl
      | cons behind =>
        cases behind with
        | nil => rfl
        | cons digits =>
          rw [readTrailing, readUnit_cut h' digits]
          rfl
    show readEscape ('u' :: w :: x :: y :: z :: q) = _
    rw [readEscape, readUnit_of_hexUnit? h]
    simp [bind, Except.bind, leading, first, second]

theorem Spells.breaks {s : List Char} {c : Char} (h : Spells s c) : Breaks readEscape s := by
  intro p cut fuel
  cases cut with
  | nil => exact readChars_nil fuel
  | cons cut =>
    cases h with
    | plain => cases cut
    | short _ =>
      rw [cut.eq_nil]
      exact readChars_escape_cut rfl fuel
    | unit value => exact readChars_escape_cut (readEscape_unit_cut value cut) fuel
    | pair value leading first value' =>
      exact readChars_escape_cut (readEscape_pair_cut value leading first value' cut) fuel

/-- A string that breaks off, wherever that is, is found to. -/
theorem Quoted.readString_cut {s cs p : List Char} (h : Quoted s cs) (cut : Cut p s) :
    p = [] ∨ ∃ inside, p = '"' :: inside ∧ Json.readString inside = .error .truncated := by
  cases h with
  | @mk ss cs spelled =>
    cases cut with
    | nil => exact .inl rfl
    | cons inside =>
      have pieces : List.Forall₂ (fun p t => Takes readEscape p t ∧ Breaks readEscape p) ss
          (cs.map fun c => [c]) :=
        List.forall₂_map_right_iff.2 (spelled.imp fun _ _ spells => ⟨spells.takes, spells.breaks⟩)
      exact .inr ⟨_, rfl, readChars_cut pieces _ inside _⟩

/-! ## Reading to the end -/

/-- Reading finds the text to end too early, or takes all of it but space. -/
def Exhausts {α : Type} (read : Except ReadError (α × List Char)) : Prop :=
  read = .error .truncated ∨ ∃ a ws, read = .ok (a, ws) ∧ Space ws

theorem Exhausts.map {α β : Type} {read : Except ReadError (α × List Char)} (h : Exhausts read)
    (f : α → β) : Exhausts (read.map fun r => (f r.1, r.2)) := by
  rcases h with rfl | ⟨a, ws, rfl, space⟩
  · exact .inl rfl
  · exact .inr ⟨f a, ws, rfl, space⟩

/-- If reading a value that breaks off exhausts it, so it is with space around the value. -/
theorem exhausts_of_cut {α : Type} {read : List Char → Except ReadError (α × List Char)}
    {value : List Char} {a : α} (skips : ∀ {ws} cs, Space ws → read (ws ++ cs) = read cs)
    (nothing : read [] = .error .truncated)
    (whole : ∀ rest, EndsNumber rest → read (value ++ rest) = .ok (a, rest))
    (broken : ∀ p, Cut p value → Exhausts (read p)) {ws ws' p : List Char} (space : Space ws)
    (space' : Space ws') (cut : Cut p (ws ++ (value ++ ws'))) : Exhausts (read p) := by
  rcases cut.of_append with before | ⟨q, rfl, behind⟩
  · have same := skips [] (before.space space)
    rw [List.append_nil, nothing] at same
    exact .inl same
  · rw [skips q space]
    rcases behind.of_append with inside | ⟨rest, rfl, after⟩
    · exact broken q inside
    · have blank := after.space space'
      have ends : EndsNumber rest := by
        have := blank.endsNumber endsNumber_nil
        rwa [List.append_nil] at this
      exact .inr ⟨a, rest, whole rest ends, blank⟩

end TextCursor.Json
