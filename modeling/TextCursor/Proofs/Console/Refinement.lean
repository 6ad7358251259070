import TextCursor.Proofs.Console.Lines
import TextCursor.Proofs.Session.Deletion

/-!
# The program runs a session

What the program writes for an input is what a new session answers to its lines, up to the first that
is no text or says to exit: `run_refines_session`. Nothing that comes behind that line is looked at. That
is so however the pieces of the input are read as lines, and of the lines up to that one it is said what
they are.

`StopsAfter` tells the lines that are executed from the one at which a run stops. There is always one
way to do so (`exists_stopsAfter`, `StopsAfter.unique`), and what a run leaves follows from it
(`StopsAfter.runLines_eq`), by induction on the lines executed with one step of the run for each
(`runLines_step`).
-/

namespace TextCursor.Console

/-! ## Where a run stops -/

/-- A run on some lines executes the lines `before` and stops: those are texts, none of them exits,
and what comes behind them is the end, a line that is no text, or a line that exits. -/
structure StopsAfter (s : Session) (lines : List (Option String)) (before : List String) :
    Prop where
  take_eq : lines.take before.length = before.map some
  goes_on : ∀ e ∈ s.executeAll before, e.result ≠ .ok .exit
  stops : ∀ line, lines[before.length]? = some (some line) →
    ((s.afterAll before).execute line).result = .ok .exit

/-- A run stops at once where the first line, if there is one that is a text, exits. -/
theorem stopsAfter_nil {s : Session} {lines : List (Option String)}
    (stops : ∀ line, lines.head? = some (some line) → (s.execute line).result = .ok .exit) :
    StopsAfter s lines [] where
  take_eq := rfl
  goes_on := by
    intro e mem
    exact absurd mem List.not_mem_nil
  stops := by
    intro line first
    exact stops line (List.head?_eq_getElem?.trans first)

theorem StopsAfter.cons {s : Session} {line : String} {lines : List (Option String)}
    {before : List String} (goesOn : (s.execute line).result ≠ .ok .exit)
    (h : StopsAfter (s.execute line).after lines before) :
    StopsAfter s (some line :: lines) (line :: before) where
  take_eq := by
    rw [List.length_cons, List.take_succ_cons, h.take_eq, List.map_cons]
  goes_on := by
    intro e mem
    rcases List.mem_cons.1 mem with rfl | mem
    · exact goesOn
    · exact h.goes_on e mem
  stops := h.stops

theorem exists_stopsAfter (s : Session) (lines : List (Option String)) :
    ∃ before, StopsAfter s lines before := by
  induction lines generalizing s with
  | nil => exact ⟨[], stopsAfter_nil fun line first => by cases first⟩
  | cons line? lines ih =>
    cases line? with
    | none => exact ⟨[], stopsAfter_nil fun line first => by cases first⟩
    | some line =>
      by_cases exits : (s.execute line).result = .ok .exit
      · exact ⟨[], stopsAfter_nil fun line' first => by cases first; exact exits⟩
      · obtain ⟨before, h⟩ := ih (s.execute line).after
        exact ⟨line :: before, h.cons exits⟩

/-- A run that executes lines before it stops begins with the first of them. -/
theorem StopsAfter.of_cons {s : Session} {lines : List (Option String)} {line : String}
    {before : List String} (h : StopsAfter s lines (line :: before)) :
    ∃ rest, lines = some line :: rest ∧ (s.execute line).result ≠ .ok .exit ∧
      StopsAfter (s.execute line).after rest before := by
  have take := h.take_eq
  cases lines with
  | nil => cases take
  | cons line? rest =>
    rw [List.length_cons, List.take_succ_cons, List.map_cons, List.cons.injEq] at take
    obtain ⟨rfl, take⟩ := take
    refine ⟨rest, rfl, h.goes_on _ List.mem_cons_self, take, ?_, h.stops⟩
    intro e mem
    exact h.goes_on e (List.mem_cons_of_mem _ mem)

/-- There is one place alone at which a run stops. -/
theorem StopsAfter.unique {s : Session} {lines : List (Option String)} {before before' : List String}
    (h : StopsAfter s lines before) (h' : StopsAfter s lines before') : before = before' := by
  induction before generalizing s lines before' with
  | nil =>
    cases before' with
    | nil => rfl
    | cons line before' =>
      obtain ⟨rest, rfl, goesOn, _⟩ := h'.of_cons
      exact absurd (h.stops line rfl) goesOn
  | cons line before ih =>
    obtain ⟨rest, rfl, goesOn, h⟩ := h.of_cons
    cases before' with
    | nil => exact absurd (h'.stops line rfl) goesOn
    | cons line' before' =>
      obtain ⟨rest', same, _, h'⟩ := h'.of_cons
      cases same
      rw [ih h h']

theorem getElem?_eq_of_take_eq {α : Type} {l l' : List α} {n : Nat}
    (same : l'.take (n + 1) = l.take (n + 1)) : l'[n]? = l[n]? := by
  rw [← List.getElem?_take_of_lt (Nat.lt_succ_self n), same,
    List.getElem?_take_of_lt (Nat.lt_succ_self n)]

/-- Where a run stops depends on the lines up to that place alone. -/
theorem StopsAfter.congr {s : Session} {lines lines' : List (Option String)} {before : List String}
    (h : StopsAfter s lines before)
    (same : lines'.take (before.length + 1) = lines.take (before.length + 1)) :
    StopsAfter s lines' before where
  take_eq := by
    have shorter := congrArg (List.take before.length) same
    rw [List.take_take, List.take_take, Nat.min_eq_left (Nat.le_succ _)] at shorter
    rw [shorter, h.take_eq]
  goes_on := h.goes_on
  stops := by
    rw [getElem?_eq_of_take_eq same]
    exact h.stops

/-! ## What a run leaves -/

/-- What is written to the output for the outcome of a line. -/
def shown? (e : Effect Session CommandError Reply) : Option String :=
  match e.result with
  | .ok (.output text) => if text.isEmpty then none else some text
  | _ => none

/-- What is written to the errors for the outcome of a line. -/
def complaint? (e : Effect Session CommandError Reply) : Option String :=
  match e.result with
  | .error err => some err.message
  | .ok _ => none

/-- What is written to the output where a run stops. -/
def farewell (lines : List (Option String)) (before : List String) : List String :=
  if lines[before.length]? = some none then [undecodable] else []

/-- The lines that a run reads: those that are executed and go on, and the one that exits. -/
def linesRead (lines : List (Option String)) (before : List String) : List String :=
  before ++ lines[before.length]?.join.toList

theorem runLines_some (s : Session) (h : History) (line : String) (lines : List (Option String)) :
    runLines s h (some line :: lines) =
      let t := runLines (s.execute line).after (h.enter line) lines
      match (s.execute line).result with
      | .ok .exit => ⟨[], [], h.enter line⟩
      | .ok .silent => t
      | .ok (.output text) => if text.isEmpty then t else { t with output := text :: t.output }
      | .error err => { t with errors := err.message :: t.errors } := by
  rfl

/-- One line that does not exit: what it answers comes before what the others answer, in the output
or among the errors or nowhere, and the run goes on whether it fails or not. -/
theorem runLines_step {s : Session} {line : String}
    (goesOn : (s.execute line).result ≠ .ok .exit) (h : History) (lines : List (Option String)) :
    runLines s h (some line :: lines) =
      let t := runLines (s.execute line).after (h.enter line) lines
      ⟨(shown? (s.execute line)).toList ++ t.output,
        (complaint? (s.execute line)).toList ++ t.errors, t.history⟩ := by
  rw [runLines_some]
  cases answered : (s.execute line).result with
  | error err => simp only [shown?, complaint?, answered]; rfl
  | ok reply =>
    cases reply with
    | exit => exact absurd answered goesOn
    | silent => simp only [shown?, complaint?, answered]; rfl
    | output text =>
      simp only [shown?, complaint?, answered]
      cases text.isEmpty with
      | true => rfl
      | false => rfl

/-- What a run leaves is what the lines answer that it executes before it stops. -/
theorem StopsAfter.runLines_eq {s : Session} {lines : List (Option String)} {before : List String}
    (stops : StopsAfter s lines before) (h : History) :
    runLines s h lines =
      ⟨(s.executeAll before).filterMap shown? ++ farewell lines before,
        (s.executeAll before).filterMap complaint?,
        (linesRead lines before).foldl History.enter h⟩ := by
  induction before generalizing s lines h with
  | nil =>
    -- the end of the input, a line that is no text, or one that exits
    match lines, stops with
    | [], _ => rfl
    | none :: _, _ => rfl
    | some line :: _, stops =>
      have exits : (s.execute line).result = .ok .exit := stops.stops line rfl
      simp only [runLines_some, exits]
      rfl
  | cons line before ih =>
    -- what the first line answers comes before what the run on the others leaves
    obtain ⟨rest, rfl, goesOn, stops⟩ := stops.of_cons
    rw [runLines_step goesOn, ih stops, Session.executeAll, List.filterMap_cons,
      List.filterMap_cons]
    cases shown? (s.execute line) <;> cases complaint? (s.execute line) <;> rfl

theorem farewell_congr {lines lines' : List (Option String)} {before : List String}
    (same : lines'.take (before.length + 1) = lines.take (before.length + 1)) :
    farewell lines' before = farewell lines before := by
  rw [farewell, farewell, getElem?_eq_of_take_eq same]

theorem linesRead_congr {lines lines' : List (Option String)} {before : List String}
    (same : lines'.take (before.length + 1) = lines.take (before.length + 1)) :
    linesRead lines' before = linesRead lines before := by
  rw [linesRead, linesRead, getElem?_eq_of_take_eq same]

/-! ## The program -/

/-- The lines of an input, as each piece of it is read. -/
def linesOf (read : Piece → Option String) (input : List UInt8) : List (Option String) :=
  (pieces input).map read

/-- A run of a program on an input does what a new session does on the lines `before`. -/
structure Refines (program : Settings → List UInt8 → Outcome) (settings : Settings)
    (input : List UInt8) (lines : List (Option String)) (before : List String) : Prop where
  stops : StopsAfter .new lines before
  output_eq : (program settings input).output =
    unlines ((Session.new.executeAll before).filterMap shown? ++ farewell lines before)
  errors_eq : (program settings input).errors =
    unlines (settings.warning?.toList ++ (Session.new.executeAll before).filterMap complaint?)
  code_eq : (program settings input).code = 0
  /-- Other bytes behind the line at which the run stops make no difference. -/
  tail_eq : ∀ head tail tail', input = head ++ lineFeed :: tail →
    (pieces (head ++ [lineFeed])).length = before.length + 1 →
    program settings (head ++ lineFeed :: tail') = program settings input

/-- It matters only what the lines are up to the one at which the run stops. -/
theorem Refines.congr {program : Settings → List UInt8 → Outcome} {settings : Settings}
    {input : List UInt8} {lines lines' : List (Option String)} {before : List String}
    (h : Refines program settings input lines before)
    (same : lines'.take (before.length + 1) = lines.take (before.length + 1)) :
    Refines program settings input lines' before where
  stops := h.stops.congr same
  output_eq := by rw [farewell_congr same, h.output_eq]
  errors_eq := h.errors_eq
  code_eq := h.code_eq
  tail_eq := h.tail_eq

/-- Readings that agree on the first pieces give the same first lines. -/
theorem take_linesOf_congr {read read' : Piece → Option String} {input : List UInt8} {n : Nat}
    (same : ∀ p ∈ (pieces input).take n, read' p = read p) :
    (linesOf read' input).take n = (linesOf read input).take n := by
  rw [linesOf, linesOf, ← List.map_take, ← List.map_take]
  exact List.map_congr_left same

/-- The first lines are those of the first pieces. -/
theorem take_linesOf_append (read : Piece → Option String) {head : List UInt8} {n : Nat}
    (within : (pieces (head ++ [lineFeed])).length = n) (tail : List UInt8) :
    (linesOf read (head ++ lineFeed :: tail)).take n = linesOf read (head ++ [lineFeed]) := by
  rw [linesOf, pieces_append, List.map_append]
  exact List.take_left' ((List.length_map read).trans within)

section Reading

variable {read : Piece → Option String} {input : List UInt8} {before : List String}

theorem StopsAfter.runReading_eq (h : StopsAfter .new (linesOf read input) before)
    (settings : Settings) :
    runReading read settings input =
      ⟨unlines ((Session.new.executeAll before).filterMap shown?
          ++ farewell (linesOf read input) before),
        unlines (settings.warning?.toList ++ (Session.new.executeAll before).filterMap complaint?),
        0, ((linesRead (linesOf read input) before).foldl History.enter .empty).toFile?⟩ := by
  have lines := h.runLines_eq .empty
  rw [linesOf] at lines ⊢
  rw [runReading, lines]

/-- Where the line at which a run stops is ended, the run is the same whatever follows. -/
theorem StopsAfter.runReading_append {head tail : List UInt8}
    (h : StopsAfter .new (linesOf read (head ++ lineFeed :: tail)) before)
    (within : (pieces (head ++ [lineFeed])).length = before.length + 1) (settings : Settings)
    (tail' : List UInt8) :
    runReading read settings (head ++ lineFeed :: tail') =
      runReading read settings (head ++ lineFeed :: tail) := by
  have same : (linesOf read (head ++ lineFeed :: tail')).take (before.length + 1) =
      (linesOf read (head ++ lineFeed :: tail)).take (before.length + 1) := by
    rw [take_linesOf_append read within, take_linesOf_append read within]
  rw [(h.congr same).runReading_eq, h.runReading_eq, farewell_congr same, linesRead_congr same]

theorem StopsAfter.refines (h : StopsAfter .new (linesOf read input) before)
    (settings : Settings) :
    Refines (runReading read) settings input (linesOf read input) before where
  stops := h
  output_eq := by rw [h.runReading_eq]
  errors_eq := by rw [h.runReading_eq]
  code_eq := rfl
  tail_eq := by
    rintro head tail tail' rfl within
    exact h.runReading_append within settings tail'

end Reading

/-- **The program runs a session.** However the pieces of an input are read as lines, there is a first
line that is no text or exits, or there is none; the lines before it are executed, the outputs and the
errors of a new session on them are written, each in their order, and what lies behind is not looked at.

The program reads the pieces up to there as they were typed if no backspace is in them. If there are
any, each takes back the cluster before it and none is left, unless a cluster takes 256 bytes or more. -/
theorem run_refines_session (settings : Settings) (input : List UInt8) :
    Splits input (pieces input) ∧
    (∀ read, ∃ before, Refines (runReading read) settings input (linesOf read input) before) ∧
    (∃ before, Refines run settings input (linesOf Piece.line? input) before ∧
      ((∀ p ∈ (pieces input).take (before.length + 1), p.Plain) →
        Refines run settings input (linesOf Piece.typed? input) before) ∧
      ((∀ p ∈ (pieces input).take (before.length + 1), p.Regular) →
        Refines run settings input (linesOf Piece.takenBack? input) before)) ∧
    ∀ p ∈ pieces input, ∀ line ∈ p.takenBack?, Text.backspace ∉ line.toList := by
  refine ⟨splits_pieces input, ?_, ?_, fun p _ line => Piece.backspace_not_mem_takenBack?⟩
  · intro read
    obtain ⟨before, stops⟩ := exists_stopsAfter .new (linesOf read input)
    exact ⟨before, stops.refines settings⟩
  · obtain ⟨before, stops⟩ := exists_stopsAfter .new (linesOf Piece.line? input)
    have refines : Refines run settings input (linesOf Piece.line? input) before :=
      stops.refines settings
    refine ⟨before, refines, fun plain => refines.congr ?_, fun regular => refines.congr ?_⟩
    · exact take_linesOf_congr fun p mem => (plain p mem).line?_eq.symm
    · exact take_linesOf_congr fun p mem => (regular p mem).line?_eq.symm

/-- An input with a line that fails, a line that exits and more behind it, and one with backspaces that
have something to take back and with some that have not. -/
theorem run_refines_session_exit :
    let plain := "new é\r\npeek x\nrest\n\nexit\nrest".toUTF8.toList
    let typed := "new abx\x08c\n\x08é\n\x08rest!\x08".toUTF8.toList
    ((∀ p ∈ pieces plain, p.Plain) ∧
      ∃ before, Refines run .standard plain (linesOf Piece.typed? plain) before) ∧
    ((∀ p ∈ pieces typed, p.Regular) ∧
      ∃ before, Refines run .standard typed (linesOf Piece.takenBack? typed) before) ∧
    "rest" ∈ (⟨"\x08rest!\x08".toUTF8.toList, false⟩ : Piece).takenBack? ∧
    Text.backspace ∉ "rest".toList := by
  intro plain typed
  have allPlain : ∀ p ∈ pieces plain, p.Plain := by decide +kernel
  have allRegular : ∀ p ∈ pieces typed, p.Regular := by decide +kernel
  obtain ⟨-, -, ⟨before, -, asTyped, -⟩, -⟩ := run_refines_session .standard plain
  obtain ⟨-, -, ⟨before', -, -, asLeft⟩, none⟩ := run_refines_session .standard typed
  have rest : "rest" ∈ (⟨"\x08rest!\x08".toUTF8.toList, false⟩ : Piece).takenBack? := by
    decide +kernel
  refine ⟨⟨allPlain, before, asTyped fun p mem => allPlain p (List.mem_of_mem_take mem)⟩,
    ⟨allRegular, before', asLeft fun p mem => allRegular p (List.mem_of_mem_take mem)⟩,
    rest, none _ ?_ _ rest⟩
  decide +kernel

/-- Lines are not executed as they were typed where backspaces take something back. -/
theorem typed_lines_not_executed :
    ¬ ∀ (settings : Settings) (input : List UInt8),
      ∃ before, Refines run settings input (linesOf Piece.typed? input) before := by
  intro always
  obtain ⟨before, refines⟩ := always .standard "new abx\x08c\nrest\n".toUTF8.toList
  have stops : StopsAfter .new (linesOf Piece.typed? "new abx\x08c\nrest\n".toUTF8.toList)
      ["new abx\x08c", "rest"] := by
    refine ⟨by decide +kernel, by decide +kernel, ?_⟩
    intro line more
    have none : (linesOf Piece.typed? "new abx\x08c\nrest\n".toUTF8.toList)[2]? = none := by
      decide +kernel
    cases none.symm.trans more
  have same := refines.stops.unique stops
  subst same
  have written := refines.output_eq
  revert written
  decide +kernel

end TextCursor.Console
