import Mathlib.Tactic.TFAE
import TextCursor.Proofs.Cursor.Invariant
import TextCursor.Proofs.Lookup.Place

/-!
# What lies ahead, seen by position and by place

What lies ahead of a cursor is read from its offset in bytes; a place of the text is looked up by
signed numbers of 64 bits. `Reachable.views_agree` says that both show the same at every reachable
cursor: the rest is the slice from the position on, the character at the cursor is the one at that
place, `peek` is a slice that begins one further, and taking one character after another gives these
characters too.

`WF.results_getch` is about taking characters any number of times: one time takes the first
character of the rest (`getch_cases`), and where nothing is left each further one fails.
-/

namespace TextCursor.Cursor

/-! ## Ahead of the cursor -/

theorem WF.current?_eq {c : Cursor} (h : c.WF) : c.current? = c.text.toList[c.position]? := by
  rw [current?, h.toList_rest, List.head?_drop]

theorem WF.toList_peek {c : Cursor} (h : c.WF) (n : Nat) :
    (c.peek n).toList = (c.text.toList.drop (c.position + 1)).take n := by
  rw [peek, String.toList_ofList, h.toList_rest, List.drop_drop]

/-- Nothing lies ahead: seen from the character at the cursor, from either form of the position,
from the rest, and from taking a character. -/
theorem WF.nothing_ahead {c : Cursor} (h : c.WF) :
    [c.current? = none, c.atEnd = true, c.position = c.text.length, c.rest = "",
      c.getch.result = .error (.endOfInput c.position), ∃ e, c.getch.result = .error e].TFAE := by
  tfae_have 2 ↔ 3 := h.atEnd_iff
  tfae_have 2 ↔ 4 := h.atEnd_iff_rest
  tfae_have 1 → 4 := current?_eq_none
  tfae_have 4 → 1 := by
    intro nothing
    rw [current?, nothing]
    rfl
  tfae_have 1 → 5 := by
    intro none
    rw [Cursor.getch, none]
  tfae_have 5 → 6 := fun failed => ⟨_, failed⟩
  tfae_have 6 → 4 := by
    rintro ⟨e, failed⟩
    rcases getch_cases c with ⟨nothing, -⟩ | ⟨ch, rest, -, -, ok, -, -⟩
    · exact nothing
    · rw [ok] at failed
      cases failed
  tfae_finish

/-! ## One character after another -/

/-- Taking characters gives those of the rest in their order, and fails once none is left. -/
theorem WF.results_getch {c : Cursor} (h : c.WF) (n : Nat) :
    (c.performAll (List.replicate n .getch)).map Effect.result =
      (c.rest.toList.take n).map (fun ch => .ok (.char ch)) ++
        List.replicate (n - c.rest.length) (.error (.endOfInput c.text.length)) := by
  induction n generalizing c with
  | zero => simp [performAll]
  | succ n ih =>
    rw [List.replicate_succ, performAll, List.map_cons]
    rcases getch_cases c with ⟨nothing, failed⟩ | ⟨ch, rest, -, ahead, ok, -, moved⟩
    · have arrived : c.position = c.text.length := h.atEnd_iff.1 (h.atEnd_iff_rest.2 nothing)
      have stays : (c.perform .getch).after = c := by
        rw [Cursor.perform, failed]
        rfl
      have first : (c.perform .getch).result = .error (.endOfInput c.text.length) := by
        rw [Cursor.perform, failed, ← arrived]
        rfl
      rw [stays, first, ih h, nothing]
      simp [List.replicate_succ]
    · have behind : (c.perform .getch).after.rest = rest := moved.rest_eq h ahead
      have text : (c.perform .getch).after.text = c.text := moved.text_eq
      have first : (c.perform .getch).result = .ok (.char ch) := by
        rw [Cursor.perform, Effect.result_map_of_ok ok]
      have chars : c.rest.toList = ch :: rest.toList := by
        rw [ahead, String.toList_append, String.toList_singleton, List.singleton_append]
      have length : c.rest.length = rest.length + 1 := by
        rw [← String.length_toList, chars, List.length_cons, String.length_toList]
      rw [first, ih (h.perform .getch), behind, text, chars, length, List.take_succ_cons,
        Nat.add_sub_add_right]
      rfl

/-- What all but the first answer of taking characters: what `peek` shows, and then nothing more. -/
theorem WF.results_getch_tail {c : Cursor} (h : c.WF) (n : Nat) :
    (c.performAll (List.replicate (n + 1) .getch)).tail.map Effect.result =
      (c.peek n).toList.map (fun ch => .ok (.char ch)) ++
        List.replicate (n - (c.peek n).length) (.error (.endOfInput c.text.length)) := by
  rw [List.map_tail, h.results_getch, ← String.length_toList, ← String.length_toList, peek,
    String.toList_ofList]
  cases c.rest.toList with
  | nil => simp
  | cons ch rest =>
    simp
    omega

/-! ## Positions and places -/

/-- `peek` shows the slice that begins one place behind the position, also where that is behind the
end. -/
theorem WF.slice_peek {c : Cursor} (h : c.WF) (small : c.text.length < 2 ^ 63 - 1) (n : Nat) :
    c.slice (some (Int64.ofNat (c.position + 1)))
      (some (Int64.ofNat (min (c.position + 1 + n) (2 ^ 63 - 1)))) none = .ok (c.peek n) := by
  have limit : Text.signedLimit = 2 ^ 63 := rfl
  have position_le := h.position_le
  rw [Cursor.slice, Lookup.slice_between (by omega) (by omega) (by omega)]
  congr 1
  rw [← String.toList_inj, String.toList_ofList, h.toList_peek, List.take_drop]
  congr 1
  -- what the cap leaves out lies behind the end
  rw [List.take_eq_take_iff, String.length_toList]
  omega

/-- **What lies ahead is the same seen by position and by place.** At every reachable cursor the
text is what lies behind followed by the rest; the rest is the slice from the position on, the
character at the cursor the one at that place, and `peek` the slice that begins one further. Nothing
lies ahead just where the position is the length of the text, and just there no character can be
taken. Taking one character after another gives the one at the cursor and then what `peek` shows,
and fails from the end on. -/
theorem Reachable.views_agree {c : Cursor} (h : c.Reachable) (small : c.text.length < 2 ^ 63 - 1) :
    let here := Int64.ofNat c.position
    let next := Int64.ofNat (c.position + 1)
    (here.toInt = c.position ∧ next.toInt = c.position + 1) ∧
    String.ofList (c.text.toList.take c.position) ++ c.rest = c.text ∧
    c.slice (some here) none none = .ok c.rest ∧
    (∀ ch, c.current? = some ch ↔ c.item here = .ok ch) ∧
    [c.current? = none, c.atEnd = true, c.position = c.text.length, c.rest = "",
      c.getch.result = .error (.endOfInput c.position), ∃ e, c.getch.result = .error e].TFAE ∧
    (∀ n, c.slice (some next) (some (Int64.ofNat (min (c.position + 1 + n) (2 ^ 63 - 1)))) none =
      .ok (c.peek n)) ∧
    ∀ n, (c.performAll (List.replicate (n + 1) .getch)).tail.map Effect.result =
      (c.peek n).toList.map (fun ch => .ok (.char ch)) ++
        List.replicate (n - (c.peek n).length) (.error (.endOfInput c.text.length)) := by
  intro here next
  have wf := h.wf
  have limit : Text.signedLimit = 2 ^ 63 := rfl
  have position_le := wf.position_le
  have small' : c.text.length < Text.signedLimit := by omega
  refine ⟨⟨?_, ?_⟩, wf.text_eq.symm, ?_, ?_, wf.nothing_ahead, wf.slice_peek small,
    wf.results_getch_tail⟩
  · exact Int64.toInt_ofNat_of_lt (by omega)
  · exact Int64.toInt_ofNat_of_lt (by omega)
  · rw [slice, Lookup.slice_from small' position_le, ← wf.toList_rest, String.ofList_toList]
  · intro ch
    rw [wf.current?_eq, item, Lookup.charAt_ofNat small' (by omega)]
    cases c.text.toList[c.position]? with
    | none => simp
    | some found => simp

/-- A cursor between characters of two bytes, the greatest count that `peek` can be given, and more
characters taken than there are. -/
theorem views_agree_accented :
    let c := (new "aéüb").runAll [.getch, .search .skip "é"]
    c.Reachable ∧ c.text.length < 2 ^ 63 - 1 ∧
    c.slice (some 2) none none = .ok "üb" ∧ c.item 2 = .ok 'ü' ∧
    c.slice (some 3) (some Int64.maxValue) none = .ok "b" ∧
    (c.performAll (List.replicate 4 .getch)).tail.map Effect.result =
      [.ok (.char 'b'), .error (.endOfInput 4), .error (.endOfInput 4)] := by
  intro c
  have reached : c.Reachable := (Reachable.made (.new "aéüb")).runAll _
  have small : c.text.length < 2 ^ 63 - 1 := by decide +kernel
  have place : Int64.ofNat c.position = 2 := by decide +kernel
  have next : Int64.ofNat (c.position + 1) = 3 := by decide +kernel
  have stop : Int64.ofNat (min (c.position + 1 + (2 ^ 64 - 1)) (2 ^ 63 - 1)) = Int64.maxValue := by
    decide +kernel
  obtain ⟨-, -, onwards, here, -, peeked, taken⟩ := Reachable.views_agree reached small
  have greatest := peeked (2 ^ 64 - 1)
  rw [place] at onwards here
  rw [next, stop] at greatest
  refine ⟨reached, small, ?_, ?_, ?_, ?_⟩
  · rw [onwards]
    decide +kernel
  · exact (here 'ü').1 (by decide +kernel)
  · rw [greatest]
    decide +kernel
  · rw [taken 3]
    decide +kernel

end TextCursor.Cursor
