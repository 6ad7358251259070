import TextCursor.Proofs.Console.Refinement
import TextCursor.Proofs.Session.OneLine

/-!
# Output and errors in lines

The session of a run is on single lines throughout, since the lines of the input hold no line feeds.
So each answer is one line of the output, each error is one line of the errors, and which line belongs
to which command can be told by counting: `run_framed`.
-/

namespace TextCursor.Console

open Text (OneLine)

/-! ## The lines that are read -/

theorem StopsAfter.mem_of_mem_linesRead {s : Session} {lines : List (Option String)}
    {before : List String} (h : StopsAfter s lines before) {line : String}
    (mem : line ∈ linesRead lines before) : some line ∈ lines := by
  rcases List.mem_append.1 mem with mem | mem
  · have among : some line ∈ before.map some := List.mem_map_of_mem mem
    rw [← h.take_eq] at among
    exact List.mem_of_mem_take among
  · rw [Option.mem_toList, Option.join_eq_some_iff] at mem
    exact List.mem_of_getElem? mem

theorem StopsAfter.oneLine_linesRead {s : Session} {input : List UInt8} {before : List String}
    (h : StopsAfter s (linesOf Piece.line? input) before) {line : String}
    (mem : line ∈ linesRead (linesOf Piece.line? input) before) : OneLine line := by
  obtain ⟨p, among, read⟩ := List.mem_map.1 (h.mem_of_mem_linesRead mem)
  exact oneLine_of_line? among read

/-- What is written for the lines that are read is written for those before the last, which exits. -/
theorem StopsAfter.filterMap_linesRead {s : Session} {lines : List (Option String)}
    {before : List String} (h : StopsAfter s lines before)
    {told : Effect Session CommandError Reply → Option String}
    (exits : ∀ e, e.result = .ok .exit → told e = none) :
    (s.executeAll (linesRead lines before)).filterMap told =
      (s.executeAll before).filterMap told := by
  rw [linesRead]
  cases last : lines[before.length]?.join with
  | none => rw [Option.toList_none, List.append_nil]
  | some line =>
    -- one more line is read where that line exits, and it writes nothing
    have silent := exits _ (h.stops line (Option.join_eq_some_iff.1 last))
    rw [Option.toList_some, Session.executeAll_append, List.filterMap_append, Session.executeAll,
      Session.executeAll, List.filterMap_cons_none silent, List.filterMap_nil, List.append_nil]

/-! ## Framing -/

/-- Lines that belong to the outcomes for which something is written: there are as many, and each is
what is written for the outcome at its place. -/
structure Framed (told : Effect Session CommandError Reply → Option String)
    (outcomes : List (Effect Session CommandError Reply)) (written : List String) : Prop where
  length_eq : written.length = outcomes.countP fun e => (told e).isSome
  getElem?_eq : ∀ (i : Nat) (e : Effect Session CommandError Reply),
    (outcomes.filter fun e => (told e).isSome)[i]? = some e → written[i]? = told e

theorem framed_filterMap (told : Effect Session CommandError Reply → Option String)
    (outcomes : List (Effect Session CommandError Reply)) :
    Framed told outcomes (outcomes.filterMap told) where
  length_eq := List.length_filterMap_eq_countP
  getElem?_eq := by
    induction outcomes with
    | nil =>
      intro i e found
      cases found
    | cons first outcomes ih =>
      intro i e found
      cases said : told first with
      | none =>
        rw [List.filterMap_cons_none said]
        rw [List.filter_cons_of_neg (by simp [said])] at found
        exact ih i e found
      | some text =>
        rw [List.filterMap_cons_some said]
        rw [List.filter_cons_of_pos (by simp [said])] at found
        cases i with
        | zero =>
          cases found
          exact said.symm
        | succ i => exact ih i e found

theorem result_of_shown? {e : Effect Session CommandError Reply} {text : String}
    (shown : shown? e = some text) : e.result = .ok (.output text) := by
  rw [shown?] at shown
  split at shown
  · next answered =>
    split at shown
    · cases shown
    · cases shown
      exact answered
  · cases shown

theorem result_of_complaint? {e : Effect Session CommandError Reply} {text : String}
    (complained : complaint? e = some text) :
    ∃ err, e.result = .error err ∧ err.message = text := by
  rw [complaint?] at complained
  split at complained
  · next err failed =>
    cases complained
    exact ⟨err, failed, rfl⟩
  · cases complained

theorem oneLine_farewell {lines : List (Option String)} {before : List String} {l : String}
    (mem : l ∈ farewell lines before) : OneLine l := by
  rw [farewell] at mem
  split at mem
  · rw [List.mem_singleton.1 mem]
    decide
  · cases mem

/-- **Each line that is written belongs to one command.** At every point of a run the text of the
session and what it remembers as matched hold no line feed, and neither does any answer or error. So
the lines of the output are the answers of the commands that give one, in their order, and perhaps the
line about an input that is no text; and the lines of the errors are those of the commands that fail,
behind the warning about the settings. -/
theorem run_framed (settings : Settings) (input : List UInt8) :
    ∃ before, StopsAfter .new (linesOf Piece.line? input) before ∧
      let read := linesRead (linesOf Piece.line? input) before
      let outcomes := Session.new.executeAll read
      (∀ n, OneLine (Session.new.afterAll (read.take n)).cursor.text ∧
        ∀ m, (Session.new.afterAll (read.take n)).cursor.matched = some m → OneLine m) ∧
      (∀ e ∈ outcomes, (∀ text, e.result = .ok (.output text) → OneLine text) ∧
        ∀ err, e.result = .error err → OneLine err.message) ∧
      (∃ answers, Framed shown? outcomes answers ∧
        HasLines (run settings input).output
          (answers ++ farewell (linesOf Piece.line? input) before)) ∧
      ∃ errors complaints, Framed complaint? outcomes complaints ∧ HasLines errors complaints ∧
        (run settings input).errors = unlines settings.warning?.toList ++ errors := by
  obtain ⟨before, stops⟩ := exists_stopsAfter .new (linesOf Piece.line? input)
  have refines : Refines run settings input (linesOf Piece.line? input) before :=
    stops.refines settings
  refine ⟨before, stops, ?_⟩
  intro read outcomes
  have one : ∀ line ∈ read, OneLine line := fun line mem => stops.oneLine_linesRead mem
  obtain ⟨_, results⟩ := Session.singleLine_new.executeAll one
  have answer : ∀ e ∈ outcomes, ∀ text, e.result = .ok (.output text) → OneLine text := by
    intro e mem text answered
    exact (answered ▸ results e mem).oneLine_output
  have error : ∀ e ∈ outcomes, ∀ err, e.result = .error err → OneLine err.message := by
    intro e mem err failed
    exact (failed ▸ results e mem).oneLine_error
  refine ⟨?_, fun e mem => ⟨answer e mem, error e mem⟩, ?_, ?_⟩
  · intro n
    obtain ⟨single, _⟩ := Session.singleLine_new.executeAll fun line mem =>
      one line (List.mem_of_mem_take mem)
    exact ⟨single.text, single.matched⟩
  · refine ⟨_, framed_filterMap shown? outcomes, ?_⟩
    have quiet : ∀ e : Effect Session CommandError Reply, e.result = .ok .exit → shown? e = none := by
      intro e exits
      rw [shown?, exits]
    rw [refines.output_eq, ← stops.filterMap_linesRead quiet]
    refine hasLines_unlines fun l mem => ?_
    rcases List.mem_append.1 mem with mem | mem
    · obtain ⟨e, among, shown⟩ := List.mem_filterMap.1 mem
      exact answer e among l (result_of_shown? shown)
    · exact oneLine_farewell mem
  · have quiet : ∀ e : Effect Session CommandError Reply,
        e.result = .ok .exit → complaint? e = none := by
      intro e exits
      rw [complaint?, exits]
    refine ⟨_, _, framed_filterMap complaint? outcomes, hasLines_unlines ?_, ?_⟩
    · intro l mem
      obtain ⟨e, among, complained⟩ := List.mem_filterMap.1 mem
      obtain ⟨err, failed, rfl⟩ := result_of_complaint? complained
      exact error e among err failed
    · rw [refines.errors_eq, ← stops.filterMap_linesRead quiet, unlines, List.map_append,
        String.join_append]
      rfl

end TextCursor.Console
