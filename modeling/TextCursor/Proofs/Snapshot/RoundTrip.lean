import TextCursor.Proofs.Snapshot.Spelling
import TextCursor.Session

/-!
# Snapshots survive JSON

A snapshot is read back from the JSON that is written for it, whatever its texts hold and however
large its position is among the numbers of 64 bits: `json_round_trip`. What is written is one line,
since control characters are escaped.

What is written is one spelling of the snapshot among others (`object_toJson`), and any of them is read.
-/

namespace TextCursor.Snapshot

open TextCursor.Json

/-! ## What is written is a spelling -/

/-- A member as it is written, and what follows it. -/
def written (name : String) (value rest : List Char) : List Char :=
  '"' :: (name.toList ++ '"' :: ':' :: (value ++ rest))

/-- The members of a snapshot as they are written, and the closing brace. -/
theorem toList_toJson (s : Snapshot) :
    s.toJson.toList = '\x7B' ::
      written "text" (writeString s.text.toList)
        (',' :: written "position" (Nat.toDigits 10 s.position)
          (',' :: written "last_match" (writeMatch s.lastMatch) ['\x7D'])) := by
  unfold toJson
  simp [written]

/-- The members that are written for a snapshot. -/
def fields (s : Snapshot) : List Field :=
  [.text s.text, .position s.position, .lastMatch s.lastMatch]

theorem says_fields (s : Snapshot) : Says s.fields s where
  typed := by simp [fields]
  text := rfl
  position := rfl
  lastMatch := .inl rfl

/-- The member is one of those that are written. -/
inductive Field.Known : Field → Prop
  | text (value : String) : Known (.text value)
  | position (value : Nat) : Known (.position value)
  | lastMatch (value : Option String) : Known (.lastMatch value)

theorem known_fields (s : Snapshot) : ∀ f ∈ s.fields, f.Known := by
  simp [fields, Field.Known.text, Field.Known.position, Field.Known.lastMatch]

/-- The names that are written need no escapes. -/
theorem Field.Known.flatMap_writeChar {f : Field} (h : f.Known) :
    f.name.toList.flatMap writeChar = f.name.toList := by
  have plain : ∀ name ∈ ["text", "position", "last_match"],
      name.toList.flatMap writeChar = name.toList := by
    decide
  refine plain f.name ?_
  cases h <;> simp [Field.name]

theorem value_writeMatch (m : Option String) : (Field.lastMatch m).Value (writeMatch m) := by
  cases m with
  | none => exact .noMatch
  | some m => exact .someMatch (quoted_writeString m.toList)

/-- A member is spelled as it is written. -/
theorem Field.Known.spelled_written {f : Field} (known : f.Known) {value : List Char}
    (h : f.Value value) (rest : List Char) :
    ∃ cs, f.Spelled cs ∧ written f.name value rest = cs ++ rest := by
  refine ⟨_, .mk (quoted_writeString f.name.toList) space_nil space_nil h space_nil, ?_⟩
  rw [writeString, known.flatMap_writeChar, written]
  simp

theorem listed_last {f : Field} (known : f.Known) {value : List Char} (h : f.Value value) :
    Listed [f] (written f.name value ['\x7D']) := by
  obtain ⟨cs, spelled, same⟩ := known.spelled_written h ['\x7D']
  rw [same]
  exact .last spelled

theorem listed_more {f : Field} (known : f.Known) {value ds : List Char} {fs : List Field}
    (h : f.Value value) (others : Listed fs ds) :
    Listed (f :: fs) (written f.name value (',' :: ds)) := by
  obtain ⟨cs, spelled, same⟩ := known.spelled_written h (',' :: ds)
  rw [same]
  exact .more spelled space_nil others

/-- What is written for a snapshot is an object of its members. -/
theorem object_toJson {s : Snapshot} (fits : s.position < Text.wordLimit) :
    Object s.fields s.toJson.toList := by
  have lastMatch := listed_last (.lastMatch _) (value_writeMatch s.lastMatch)
  have position := listed_more (.position _) (Field.value_toDigits fits) lastMatch
  have text := listed_more (.text _) (.text (quoted_writeString s.text.toList)) position
  rw [toList_toJson]
  exact .fields space_nil text

/-- What is written for a snapshot is read as that snapshot, whatever follows. -/
theorem read_toJson {s : Snapshot} (fits : s.position < Text.wordLimit) (rest : List Char) :
    read (s.toJson.toList ++ rest) = .ok (s, rest) :=
  (Form.object (object_toJson fits) (says_fields s)).read rest

/-- A snapshot is read back from what is written for it. -/
theorem ofJson_toJson {s : Snapshot} (fits : s.position < Text.wordLimit) :
    ofJson s.toJson = .ok s := by
  have read := read_toJson fits []
  rw [List.append_nil] at read
  rw [ofJson, read]
  rfl

/-! ## What is written is one line -/

/-- A text without characters below U+0020. -/
def Plain (cs : List Char) : Prop :=
  ∀ d ∈ cs, 0x20 ≤ d.toNat

instance (cs : List Char) : Decidable (Plain cs) :=
  List.decidableBAll (fun d : Char => 0x20 ≤ d.toNat) cs

theorem plain_append {cs ds : List Char} (h : Plain cs) (h' : Plain ds) : Plain (cs ++ ds) :=
  List.forall_mem_append.2 ⟨h, h'⟩

theorem plain_writeChar (c : Char) : Plain (writeChar c) := by
  have digit : ∀ n < 16, 0x20 ≤ (Nat.digitChar n).toNat := by decide
  unfold writeChar
  split_ifs with quote backslash backspace formFeed newline return_ tab control
  iterate 7
    · decide
  · have small : c.toNat < 32 := control
    intro d mem
    simp only [List.mem_cons, List.not_mem_nil, or_false] at mem
    rcases mem with rfl | rfl | rfl | rfl | rfl | rfl
    · decide
    · decide
    · decide
    · decide
    · exact digit _ (by omega)
    · exact digit _ (by omega)
  · intro d mem
    rw [List.mem_singleton.1 mem]
    exact Nat.not_lt.1 control

theorem plain_writeString (cs : List Char) : Plain (writeString cs) := by
  have quote : Plain ['"'] := by decide
  have characters : Plain (cs.flatMap writeChar) := by
    intro d mem
    obtain ⟨c, _, written⟩ := List.mem_flatMap.1 mem
    exact plain_writeChar c d written
  exact plain_append (plain_append quote characters) quote

theorem plain_writeMatch (m : Option String) : Plain (writeMatch m) := by
  cases m with
  | none => decide
  | some m => exact plain_writeString m.toList

theorem plain_toDigits (n : Nat) : Plain (Nat.toDigits 10 n) := by
  intro d mem
  have digit := Nat.isDigit_of_mem_toDigits (by decide) (by decide) mem
  simp only [Char.isDigit, Bool.and_eq_true, decide_eq_true_eq] at digit
  have least : 48 ≤ d.toNat := digit.1
  omega

theorem plain_written {name : String} {value rest : List Char} (named : Plain name.toList)
    (valued : Plain value) (others : Plain rest) : Plain (written name value rest) := by
  have quote : Plain ['"'] := by decide
  have colon : Plain ['"', ':'] := by decide
  exact plain_append quote (plain_append named (plain_append colon (plain_append valued others)))

theorem plain_toJson (s : Snapshot) : Plain s.toJson.toList := by
  have comma : Plain [','] := by decide
  have lastMatch : Plain (written "last_match" (writeMatch s.lastMatch) ['\x7D']) :=
    plain_written (by decide) (plain_writeMatch s.lastMatch) (by decide)
  have position : Plain (written "position" (Nat.toDigits 10 s.position) (',' :: _)) :=
    plain_written (by decide) (plain_toDigits s.position) (plain_append comma lastMatch)
  have text : Plain (written "text" (writeString s.text.toList) (',' :: _)) :=
    plain_written (by decide) (plain_writeString s.text.toList) (plain_append comma position)
  have brace : Plain ['\x7B'] := by decide
  rw [toList_toJson]
  exact plain_append brace text

/-- **Snapshots survive JSON.** What is written for a snapshot is read back as that snapshot, whatever
its texts hold, up to the greatest position of 64 bits; and no control character is written, so that
what a session answers for its state is one line. -/
theorem json_round_trip :
    (∀ s : Snapshot, s.position < Text.wordLimit → ofJson s.toJson = .ok s) ∧
    (∀ s : Snapshot, ∀ d ∈ s.toJson.toList, 0x20 ≤ d.toNat) ∧
    ∀ session : Session, ∃ line,
      (session.run .state).result = .ok (.output line) ∧ line = session.cursor.snapshot.toJson ∧
      '\n' ∉ line.toList ∧ '\r' ∉ line.toList := by
  refine ⟨fun _ => ofJson_toJson, plain_toJson, ?_⟩
  intro session
  have plain := plain_toJson session.cursor.snapshot
  refine ⟨_, rfl, rfl, ?_, ?_⟩
  · intro newline
    exact absurd (plain '\n' newline) (by decide)
  · intro return_
    exact absurd (plain '\r' return_) (by decide)

/-- Quotes, backslashes, control characters and characters beyond 16 bits, at the greatest position;
and a match that reads `null`, next to none. -/
theorem json_round_trip_awkward :
    let s : Snapshot := ⟨"\"\\/\x00\x1F\x7F\n\u2028😀", 18446744073709551615, some "null"⟩
    s.position < Text.wordLimit ∧ ofJson s.toJson = .ok s ∧
    ofJson { s with lastMatch := none }.toJson = .ok { s with lastMatch := none } := by
  intro s
  have fits : s.position < Text.wordLimit := by decide
  exact ⟨fits, json_round_trip.1 s fits, json_round_trip.1 { s with lastMatch := none } fits⟩

end TextCursor.Snapshot
