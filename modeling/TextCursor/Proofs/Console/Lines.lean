import Mathlib.Data.String.Basic
import TextCursor.Console
import TextCursor.Proofs.Text.Backspace
import TextCursor.Proofs.Text.Lines

/-!
# Lines of the input

The input falls into pieces at its line feeds and nowhere else (`splits_pieces`); what comes behind a
line feed has no part in the pieces before it (`pieces_append`). The line of a piece is its text with
the backspaces in it applied (`line?_eq`), and so holds no line feed (`oneLine_of_line?`).

Of a piece without backspaces that is the text as it was typed (`Piece.Plain.line?_eq`), and of one with
clusters that are not too long it is what is left when each backspace takes back the cluster before it
(`Piece.Regular.line?_eq`).

Of lines that are written, `HasLines` says that they are found again in the text.
-/

namespace TextCursor.Console

/-! ## Pieces -/

/-- The byte that ends a piece. -/
def lineFeed : UInt8 := 10

/-- The pieces of an input: each is ended by its first line feed, and what is behind the last one is a
piece too, unless it is empty. -/
inductive Splits : List UInt8 → List Piece → Prop
  | nil : Splits [] []
  | last {bytes : List UInt8} : bytes ≠ [] → lineFeed ∉ bytes → Splits bytes [⟨bytes, false⟩]
  | ended {bytes rest : List UInt8} {ps : List Piece} : lineFeed ∉ bytes → Splits rest ps →
      Splits (bytes ++ lineFeed :: rest) (⟨bytes, true⟩ :: ps)

theorem Splits.lineFeed_not_mem {input : List UInt8} {ps : List Piece} (h : Splits input ps)
    {p : Piece} (mem : p ∈ ps) : lineFeed ∉ p.bytes := by
  induction h with
  | nil => cases mem
  | last _ without =>
    rw [List.mem_singleton.1 mem]
    exact without
  | ended without _ ih =>
    rcases List.mem_cons.1 mem with rfl | mem
    · exact without
    · exact ih mem

/-- The bytes of the pieces are those of the input. -/
theorem Splits.subset {input : List UInt8} {ps : List Piece} (h : Splits input ps) {p : Piece}
    (mem : p ∈ ps) {b : UInt8} (byte : b ∈ p.bytes) : b ∈ input := by
  induction h with
  | nil => cases mem
  | last _ _ =>
    rw [List.mem_singleton.1 mem] at byte
    exact byte
  | ended _ _ ih =>
    rcases List.mem_cons.1 mem with rfl | mem
    · exact List.mem_append_left _ byte
    · exact List.mem_append_right _ (List.mem_cons_of_mem _ (ih mem))

theorem pieces_cons_of_nil {b : UInt8} {bs : List UInt8} (h : b ≠ lineFeed)
    (rest : pieces bs = []) : pieces (b :: bs) = [⟨[b], false⟩] := by
  rw [pieces, if_neg (show ¬ b = 10 from h), rest]

theorem pieces_cons_of_cons {b : UInt8} {bs : List UInt8} {p : Piece} {ps : List Piece}
    (h : b ≠ lineFeed) (rest : pieces bs = p :: ps) :
    pieces (b :: bs) = { p with bytes := b :: p.bytes } :: ps := by
  rw [pieces, if_neg (show ¬ b = 10 from h), rest]

/-- The pieces are the input split at its line feeds. -/
theorem splits_pieces (input : List UInt8) : Splits input (pieces input) := by
  induction input with
  | nil => exact .nil
  | cons b bs ih =>
    by_cases feed : b = lineFeed
    · subst feed
      exact .ended List.not_mem_nil ih
    · have before : ∀ {bytes : List UInt8}, lineFeed ∉ bytes → lineFeed ∉ b :: bytes :=
        fun without mem => without ((List.mem_cons.1 mem).resolve_left (Ne.symm feed))
      -- the byte goes before the first piece of the others, if there is one
      cases rest : pieces bs with
      | nil =>
        rw [pieces_cons_of_nil feed rest]
        rw [rest] at ih
        cases ih
        exact .last (List.cons_ne_nil b []) (before List.not_mem_nil)
      | cons p ps =>
        rw [pieces_cons_of_cons feed rest]
        rw [rest] at ih
        cases ih with
        | last _ without => exact .last (List.cons_ne_nil b bs) (before without)
        | ended without splits => exact .ended (before without) splits

/-- What follows a line feed is split on its own. -/
theorem pieces_append (bs tail : List UInt8) :
    pieces (bs ++ lineFeed :: tail) = pieces (bs ++ [lineFeed]) ++ pieces tail := by
  induction bs with
  | nil => rfl
  | cons b bs ih =>
    by_cases feed : b = lineFeed
    · subst feed
      show ⟨[], true⟩ :: pieces (bs ++ lineFeed :: tail) = _
      rw [ih]
      rfl
    · cases first : pieces (bs ++ [lineFeed]) with
      | nil =>
        -- a line feed ends a piece, so there is one
        have splits := splits_pieces (bs ++ [lineFeed])
        rw [first] at splits
        generalize whole : bs ++ [lineFeed] = input at splits
        cases splits
        exact absurd whole (by simp)
      | cons p ps =>
        rw [first] at ih
        rw [List.cons_append, List.cons_append, pieces_cons_of_cons feed ih,
          pieces_cons_of_cons feed first]
        rfl

/-! ## Decoding -/

/-- A character of ASCII in a decoded text is one of the bytes. -/
theorem mem_of_fromUTF8? {bytes : List UInt8} {s : String}
    (h : String.fromUTF8? ⟨bytes.toArray⟩ = some s) {c : Char} (ascii : c.toNat < 128)
    (mem : c ∈ s.toList) : UInt8.ofNat c.toNat ∈ bytes := by
  have encoded : s.toByteArray = ⟨bytes.toArray⟩ := by
    rw [String.fromUTF8?] at h
    split at h
    · cases h
      rfl
    · cases h
  rw [← String.utf8Encode_toList] at encoded
  have listed : s.toList.flatMap String.utf8EncodeChar = bytes := by
    have := congrArg (fun a : ByteArray => a.data.toList) encoded
    simpa [List.utf8Encode] using this
  rw [← listed]
  refine List.mem_flatMap.2 ⟨c, mem, ?_⟩
  have one : c.val.toNat ≤ 127 := Nat.le_of_lt_succ ascii
  rw [String.utf8EncodeChar]
  simp only [one, if_true, List.mem_singleton]
  rfl

/-! ## Lines -/

/-- The line that a piece stands for, with the backspaces that were typed still in it. -/
def Piece.typed? (p : Piece) : Option String :=
  (String.fromUTF8? ⟨p.bytes.toArray⟩).map fun s => if p.ended then dropReturn s else s

/-- The line of a piece is what was typed, with the backspaces in it applied. -/
theorem line?_eq (p : Piece) :
    p.line? = p.typed?.map fun s => String.ofList (Text.applyBackspaces s.toList) := by
  rw [Piece.line?, Piece.typed?, Option.map_map]
  rfl

theorem mem_of_mem_dropReturn {s : String} {c : Char} (h : c ∈ (dropReturn s).toList) :
    c ∈ s.toList := by
  rw [dropReturn] at h
  split at h
  · rw [String.toList_ofList] at h
    exact (List.dropLast_sublist _).subset h
  · exact h

/-- A character of ASCII in a line that was typed is one of the bytes. -/
theorem mem_of_typed? {p : Piece} {s : String} (h : p.typed? = some s) {c : Char}
    (ascii : c.toNat < 128) (mem : c ∈ s.toList) : UInt8.ofNat c.toNat ∈ p.bytes := by
  obtain ⟨t, decoded, rfl⟩ := Option.map_eq_some_iff.1 h
  refine mem_of_fromUTF8? decoded ascii ?_
  split at mem
  · exact mem_of_mem_dropReturn mem
  · exact mem

/-- What is left of the line that was typed when each backspace in it takes back the cluster before
it, if there is one. -/
def Piece.takenBack? (p : Piece) : Option String :=
  p.typed?.map fun s => String.ofList (Text.takeBack s.toList)

/-- A piece in which no backspace was typed. -/
def Piece.Plain (p : Piece) : Prop :=
  (8 : UInt8) ∉ p.bytes

/-- A piece in which no backspace was typed, or nothing that is too long to be taken back. -/
def Piece.Regular (p : Piece) : Prop :=
  p.Plain ∨ ∀ s ∈ p.typed?, Text.ShortClusters s.toList

instance (p : Piece) : Decidable p.Plain :=
  inferInstanceAs (Decidable (¬ (8 : UInt8) ∈ p.bytes))

instance (p : Piece) : Decidable p.Regular :=
  inferInstanceAs (Decidable (p.Plain ∨ ∀ s ∈ p.typed?, Text.ShortClusters s.toList))

theorem Piece.Plain.backspace_not_mem {p : Piece} (h : p.Plain) {s : String}
    (typed : p.typed? = some s) : Text.backspace ∉ s.toList :=
  fun mem => h (mem_of_typed? typed (show Text.backspace.toNat < 128 by decide) mem)

theorem Piece.map_typed?_eq {p : Piece} {f : List Char → List Char}
    (same : ∀ s, p.typed? = some s → f s.toList = s.toList) :
    (p.typed?.map fun s => String.ofList (f s.toList)) = p.typed? := by
  cases typed : p.typed? with
  | none => rfl
  | some s => rw [Option.map_some, same s typed, String.ofList_toList]

/-- A piece without backspaces stands for the line that was typed. -/
theorem Piece.Plain.line?_eq {p : Piece} (h : p.Plain) : p.line? = p.typed? := by
  rw [Console.line?_eq]
  exact map_typed?_eq fun s typed =>
    Text.applyBackspaces_of_not_mem (h.backspace_not_mem typed)

theorem Piece.Plain.takenBack?_eq {p : Piece} (h : p.Plain) : p.takenBack? = p.typed? :=
  map_typed?_eq fun _ typed => Text.takeBack_of_not_mem (h.backspace_not_mem typed)

/-- A regular piece stands for what is left when each backspace takes back a cluster. -/
theorem Piece.Regular.line?_eq {p : Piece} (h : p.Regular) : p.line? = p.takenBack? := by
  rcases h with plain | short
  · rw [plain.line?_eq, plain.takenBack?_eq]
  · rw [Console.line?_eq, Piece.takenBack?]
    refine Option.map_congr fun s typed => ?_
    rw [Text.applyBackspaces_eq_takeBack (short s typed)]

theorem Piece.backspace_not_mem_takenBack? {p : Piece} {line : String}
    (h : line ∈ p.takenBack?) : Text.backspace ∉ line.toList := by
  obtain ⟨s, -, rfl⟩ := Option.map_eq_some_iff.1 h
  rw [String.toList_ofList]
  exact Text.backspace_not_mem_takeBack s.toList

/-- No line of the input holds a line feed. -/
theorem oneLine_of_line? {input : List UInt8} {p : Piece} (h : p ∈ pieces input)
    {line : String} (read : p.line? = some line) : Text.OneLine line := by
  intro mem
  rw [line?_eq] at read
  obtain ⟨s, typed, rfl⟩ := Option.map_eq_some_iff.1 read
  rw [String.toList_ofList] at mem
  have byte := mem_of_typed? typed (by decide) (Text.mem_of_mem_applyBackspaces mem)
  exact (splits_pieces input).lineFeed_not_mem h byte

/-! ## Lines that are written -/

/-- A text that consists of the given lines, each of them ended. -/
structure HasLines (s : String) (ls : List String) : Prop where
  eq_unlines : s = unlines ls
  lines_eq : Text.lines s = ls

theorem hasLines_unlines {ls : List String} (h : ∀ l ∈ ls, Text.OneLine l) :
    HasLines (unlines ls) ls :=
  ⟨rfl, Text.lines_join h⟩

end TextCursor.Console
