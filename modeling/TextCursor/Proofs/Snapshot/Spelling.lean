import TextCursor.Proofs.Snapshot.Member

/-!
# Spellings of snapshots

One snapshot has many spellings in JSON: its members may stand in any order, among others that mean
nothing, with space and escapes wherever there may be some, or its three values in an array.
`read_as_spelled` says that each is read as the snapshot; that an object in which a member is missing
or repeated is refused as not of the form asked for; and that a position which is no natural number of
64 bits is refused, never made into one.

One member is taken at a time (`Field.Spelled.readMembers`), those of an object by induction on its
spelling (`Listed.readMembers`), and `foldlM_take` says what they make up.
-/

namespace TextCursor.Snapshot

open TextCursor.Json

/-! ## Objects and arrays apart from what they mean -/

/-- How the members of an object are spelled, from the first on and with the closing brace. -/
inductive Listed : List Field → List Char → Prop
  | last {f : Field} {cs : List Char} : f.Spelled cs → Listed [f] (cs ++ ['\x7D'])
  | more {f : Field} {fs : List Field} {cs ws ds : List Char} : f.Spelled cs → Space ws →
    Listed fs ds → Listed (f :: fs) (cs ++ ',' :: (ws ++ ds))

/-- How an object is spelled. -/
inductive Object : List Field → List Char → Prop
  | empty {ws : List Char} : Space ws → Object [] ('\x7B' :: (ws ++ ['\x7D']))
  | fields {fs : List Field} {ws cs : List Char} : Space ws → Listed fs cs →
    Object fs ('\x7B' :: (ws ++ cs))

/-- The members make up a snapshot: the text and the position are given once, and the remembered match
at most once. -/
structure Says (fs : List Field) (s : Snapshot) : Prop where
  typed : .wrongPosition ∉ fs
  text : fs.filterMap Field.text? = [s.text]
  position : fs.filterMap Field.position? = [s.position]
  lastMatch : fs.filterMap Field.lastMatch? = [s.lastMatch] ∨
    fs.filterMap Field.lastMatch? = [] ∧ s.lastMatch = none

/-- How a snapshot is spelled: as an object, or as an array of its three values. -/
inductive Form : Snapshot → List Char → Prop
  | object {s : Snapshot} {fs : List Field} {cs : List Char} : Object fs cs → Says fs s → Form s cs
  | array {s : Snapshot} {t p m ws₁ ws₂ ws₃ ws₄ ws₅ ws₆ : List Char} :
    (Field.text s.text).Value t → (Field.position s.position).Value p →
    (Field.lastMatch s.lastMatch).Value m →
    Space ws₁ → Space ws₂ → Space ws₃ → Space ws₄ → Space ws₅ → Space ws₆ →
    Form s ('[' :: (ws₁ ++ (t ++ (ws₂ ++ ',' :: (ws₃ ++ (p ++ (ws₄ ++ ',' :: (ws₅ ++ (m ++
      (ws₆ ++ [']']))))))))))

/-! ## Going through members -/

theorem next_space {ws : List Char} (h : Space ws) (first : Bool) (cs : List Char) :
    next first (ws ++ cs) = next first cs := by
  rw [next, next, h.skip]

theorem next_space_all {ws : List Char} (h : Space ws) (first : Bool) :
    next first ws = .error .truncated := by
  rw [next, h.skip_all]

/-- What stands before the name of a member: nothing before the first, and a comma before another. By
itself it is not enough. -/
structure Leads (first : Bool) (before : List Char) : Prop where
  begins : ∀ cs, next first (before ++ '"' :: cs) = .ok (.name cs)
  misses : next first before = .error .truncated

theorem leads_first : Leads true [] :=
  ⟨fun _ => rfl, rfl⟩

theorem leads_comma {ws : List Char} (h : Space ws) : Leads false (',' :: ws) where
  begins := by
    intro cs
    have quote := h.skip_cons (c := '"') rfl cs
    rw [List.cons_append, next, skipSpace_cons rfl]
    simp only [Bool.false_eq_true, if_false, quote]
  misses := by
    rw [next, skipSpace_cons rfl]
    simp only [Bool.false_eq_true, if_false, h.skip_all]

theorem readMembers_space {ws : List Char} (h : Space ws) (fuel : Nat) (first : Bool) (m : Members)
    (cs : List Char) : readMembers fuel first m (ws ++ cs) = readMembers fuel first m cs := by
  cases fuel with
  | zero => rfl
  | succ fuel => rw [readMembers, readMembers, next_space h]

section Objects

variable {first : Bool} {before cs rest : List Char}

/-- One member is read, and then the others. -/
theorem readMembers_member {named valued name : List Char}
    (begins : next first cs = .ok (.name named)) (names : readString named = .ok (name, valued))
    (fuel : Nat) (m : Members) :
    readMembers (fuel + 1) first m cs =
      (readMember m (String.ofList name) valued).bind fun read =>
        readMembers fuel false read.1 read.2 := by
  simp only [readMembers, begins, names, bind, Except.bind]

/-- A member is read from any spelling of it. -/
theorem Field.Spelled.readMembers {f : Field} (h : f.Spelled cs) (typed : f ≠ .wrongPosition)
    (leads : Leads first before) (ends : EndsNumber rest) (fuel : Nat) (m : Members) :
    readMembers (fuel + 1) first m (before ++ (cs ++ rest)) =
      (m.take f).bind fun m' => Snapshot.readMembers fuel false m' rest := by
  cases h with
  | @mk name value ws₁ ws₂ ws₃ named space₁ space₂ valued space₃ =>
    obtain ⟨inside, same, names⟩ :=
      named.readString (ws₁ ++ ':' :: (ws₂ ++ (value ++ (ws₃ ++ rest))))
    have reads := readMember_value valued typed space₁ space₂ (space₃.endsNumber ends) m
    simp only [List.append_assoc, List.cons_append, same]
    rw [readMembers_member (leads.begins inside) names, String.ofList_toList, reads]
    cases m.take f with
    | error e => rfl
    | ok m' => exact readMembers_space space₃ fuel false m' rest

/-- A position of another kind is refused in any spelling. -/
theorem Field.Spelled.readMembers_wrong (h : Field.wrongPosition.Spelled cs)
    (leads : Leads first before) (ends : EndsNumber rest) (fuel : Nat) (m : Members) :
    ∃ e, Snapshot.readMembers (fuel + 1) first m (before ++ (cs ++ rest)) = .error e := by
  cases h with
  | @mk name value ws₁ ws₂ ws₃ named space₁ space₂ valued space₃ =>
    obtain ⟨inside, same, names⟩ :=
      named.readString (ws₁ ++ ':' :: (ws₂ ++ (value ++ (ws₃ ++ rest))))
    obtain ⟨e, failed⟩ := readMember_wrong valued space₁ space₂ (space₃.endsNumber ends) m
    refine ⟨e, ?_⟩
    simp only [List.append_assoc, List.cons_append, same]
    rw [readMembers_member (leads.begins inside) names, String.ofList_toList, Field.name, failed]
    rfl

/-- The members of an object are taken one after another. -/
theorem Listed.readMembers {fs : List Field} (h : Listed fs cs) (typed : .wrongPosition ∉ fs)
    (leads : Leads first before) {fuel : Nat} (enough : fs.length < fuel) (m : Members) :
    readMembers fuel first m (before ++ (cs ++ rest)) =
      (fs.foldlM Members.take m).map fun m' => (m', rest) := by
  induction h generalizing first before fuel m with
  | @last f cs spelled =>
    rw [List.length_singleton] at enough
    obtain ⟨fuel, rfl⟩ : ∃ k, fuel = k + 2 := ⟨fuel - 2, by omega⟩
    have other : f ≠ .wrongPosition := fun same => typed (same ▸ List.mem_singleton_self _)
    have taken := spelled.readMembers other leads (endsNumber_brace rest) (fuel + 1) m
    rw [List.append_assoc]
    refine taken.trans ?_
    rw [List.foldlM_cons]
    cases m.take f with
    | error e => rfl
    | ok m' => rfl
  | @more f fs cs ws ds spelled space others ih =>
    rw [List.length_cons] at enough
    obtain ⟨fuel, rfl⟩ : ∃ k, fuel = k + 1 := ⟨fuel - 1, by omega⟩
    rw [List.mem_cons, not_or] at typed
    have taken := spelled.readMembers (Ne.symm typed.1) leads
      (endsNumber_comma (ws ++ (ds ++ rest))) fuel m
    rw [List.append_assoc, List.cons_append, List.append_assoc]
    refine taken.trans ?_
    rw [List.foldlM_cons]
    cases m.take f with
    | error e => rfl
    | ok m' => exact ih typed.2 (leads_comma space) (by omega) m'

/-- One position of another kind is enough for a refusal. -/
theorem Listed.readMembers_wrong {fs : List Field} (h : Listed fs cs) (wrong : .wrongPosition ∈ fs)
    (leads : Leads first before) {fuel : Nat} (enough : fs.length < fuel) (m : Members)
    (rest : List Char) :
    ∃ e, Snapshot.readMembers fuel first m (before ++ (cs ++ rest)) = .error e := by
  induction h generalizing first before fuel m with
  | @last f cs spelled =>
    obtain ⟨fuel, rfl⟩ : ∃ k, fuel = k + 1 := ⟨fuel - 1, by omega⟩
    obtain rfl := List.mem_singleton.1 wrong
    rw [List.append_assoc]
    exact spelled.readMembers_wrong leads (endsNumber_brace rest) fuel m
  | @more f fs cs ws ds spelled space others ih =>
    rw [List.length_cons] at enough
    obtain ⟨fuel, rfl⟩ : ∃ k, fuel = k + 1 := ⟨fuel - 1, by omega⟩
    rw [List.append_assoc, List.cons_append, List.append_assoc]
    by_cases here : f = .wrongPosition
    · subst here
      exact spelled.readMembers_wrong leads (endsNumber_comma (ws ++ (ds ++ rest))) fuel m
    · -- this one is taken or refused for another reason, and the wrong one is among the others
      have later := (List.mem_cons.1 wrong).resolve_left (Ne.symm here)
      have taken := spelled.readMembers here leads (endsNumber_comma (ws ++ (ds ++ rest))) fuel m
      cases met : m.take f with
      | error e =>
        rw [met] at taken
        exact ⟨e, taken⟩
      | ok m' =>
        rw [met] at taken
        obtain ⟨e, failed⟩ := ih later (leads_comma space) (by omega : fs.length < fuel) m'
        exact ⟨e, taken.trans failed⟩

theorem Field.Spelled.length_pos {f : Field} (h : f.Spelled cs) : 0 < cs.length := by
  cases h with
  | mk named =>
    obtain ⟨inside, same, _⟩ := named.readString []
    rw [List.append_nil] at same
    rw [same]
    exact Nat.succ_pos _

theorem Listed.length_lt {fs : List Field} (h : Listed fs cs) : fs.length < cs.length := by
  induction h with
  | last spelled =>
    have := spelled.length_pos
    simp only [List.length_append, List.length_singleton]
    omega
  | more spelled _ _ ih =>
    simp only [List.length_append, List.length_cons]
    omega

/-! ## Reading objects -/

theorem read_object (cs : List Char) :
    read ('\x7B' :: cs) = (readMembers (cs.length + 1) true {} cs).bind fun read =>
      read.1.toSnapshot.map fun s => (s, read.2) := by
  rw [Snapshot.read, skipSpace_cons rfl]
  rfl

/-- Going through the members of an object takes no more steps than there are for it. -/
theorem Listed.read_object {fs : List Field} {ws : List Char} (h : Listed fs cs) (space : Space ws)
    (rest : List Char) : ∃ fuel, fs.length < fuel ∧ read ('\x7B' :: (ws ++ cs) ++ rest) =
      (Snapshot.readMembers fuel true {} ([] ++ (cs ++ rest))).bind fun read =>
        read.1.toSnapshot.map fun s => (s, read.2) := by
  refine ⟨(ws ++ (cs ++ rest)).length + 1, ?_, ?_⟩
  · have := h.length_lt
    simp only [List.length_append]
    omega
  · rw [List.cons_append, List.append_assoc, Snapshot.read_object, readMembers_space space]
    rfl

/-- An object is read as what its members make up, one after another. -/
theorem Object.read {fs : List Field} (h : Object fs cs) (typed : .wrongPosition ∉ fs) :
    read (cs ++ rest) =
      ((fs.foldlM Members.take {}).bind Members.toSnapshot).map fun s => (s, rest) := by
  cases h with
  | empty space =>
    rw [List.cons_append, List.append_assoc, read_object, readMembers_space space]
    rfl
  | fields space listed =>
    obtain ⟨fuel, enough, same⟩ := listed.read_object space rest
    rw [same, listed.readMembers typed leads_first enough]
    cases fs.foldlM Members.take {} with
    | error e => rfl
    | ok m => rfl

theorem Object.read_wrong {fs : List Field} (h : Object fs cs) (wrong : .wrongPosition ∈ fs)
    (rest : List Char) : ∃ e, Snapshot.read (cs ++ rest) = .error e := by
  cases h with
  | empty space => cases wrong
  | fields space listed =>
    obtain ⟨fuel, enough, same⟩ := listed.read_object space rest
    obtain ⟨e, failed⟩ := listed.readMembers_wrong wrong leads_first enough {} rest
    rw [same, failed]
    exact ⟨e, rfl⟩

end Objects

/-! ## What members make up -/

/-- Members that come after others can be taken where each known name is met at most once in all. -/
theorem foldlM_take {fs : List Field} (typed : .wrongPosition ∉ fs) (m : Members) :
    fs.foldlM Members.take m =
      let texts := m.text.toList ++ fs.filterMap Field.text?
      let positions := m.position.toList ++ fs.filterMap Field.position?
      let lastMatches := m.lastMatch.toList ++ fs.filterMap Field.lastMatch?
      if texts.length ≤ 1 ∧ positions.length ≤ 1 ∧ lastMatches.length ≤ 1 then
        .ok ⟨texts.head?, positions.head?, lastMatches.head?⟩
      else .error .unexpected := by
  induction fs generalizing m with
  | nil =>
    obtain ⟨text, position, lastMatch⟩ := m
    cases text <;> cases position <;> cases lastMatch <;> rfl
  | cons f fs ih =>
    rw [List.mem_cons, not_or] at typed
    rw [List.foldlM_cons]
    obtain ⟨text, position, lastMatch⟩ := m
    cases f with
    | text value =>
      cases text with
      | none => exact ih typed.2 ⟨some value, position, lastMatch⟩
      | some _ =>
        -- the name has been met before, and now there are two
        refine (if_neg ?_).symm
        simp [Field.text?]
    | position value =>
      cases position with
      | none => exact ih typed.2 ⟨text, some value, lastMatch⟩
      | some _ =>
        refine (if_neg ?_).symm
        simp [Field.position?]
    | lastMatch value =>
      cases lastMatch with
      | none => exact ih typed.2 ⟨text, position, some value⟩
      | some _ =>
        refine (if_neg ?_).symm
        simp [Field.lastMatch?]
    | wrongPosition => exact absurd rfl typed.1
    | other name => exact ih typed.2 ⟨text, position, lastMatch⟩

theorem foldlM_take_all {fs : List Field} (typed : .wrongPosition ∉ fs) :
    fs.foldlM Members.take {} =
      if (fs.filterMap Field.text?).length ≤ 1 ∧ (fs.filterMap Field.position?).length ≤ 1 ∧
        (fs.filterMap Field.lastMatch?).length ≤ 1
      then .ok ⟨(fs.filterMap Field.text?).head?, (fs.filterMap Field.position?).head?,
        (fs.filterMap Field.lastMatch?).head?⟩
      else .error .unexpected :=
  foldlM_take typed {}

theorem Says.taken {fs : List Field} {s : Snapshot} (h : Says fs s) :
    (fs.foldlM Members.take {}).bind Members.toSnapshot = .ok s := by
  rw [foldlM_take_all h.typed, h.text, h.position]
  rcases h.lastMatch with once | ⟨never, none⟩
  · rw [once]
    rfl
  · rw [never]
    obtain ⟨text, position, lastMatch⟩ := s
    subst none
    rfl

theorem taken_of_incomplete {fs : List Field} (typed : .wrongPosition ∉ fs)
    (h : (fs.filterMap Field.text?).length ≠ 1 ∨ (fs.filterMap Field.position?).length ≠ 1 ∨
      1 < (fs.filterMap Field.lastMatch?).length) :
    (fs.foldlM Members.take {}).bind Members.toSnapshot = .error .unexpected := by
  rw [foldlM_take_all typed]
  split_ifs with once
  · -- nothing is repeated, so something is missing
    have missing : fs.filterMap Field.text? = [] ∨ fs.filterMap Field.position? = [] := by
      simp only [← List.length_eq_zero_iff]
      omega
    rcases missing with none | none
    · rw [none]
      rfl
    · rw [none]
      cases (fs.filterMap Field.text?).head? <;> rfl
  · rfl

/-! ## Reading arrays -/

section Arrays

variable {ws ws' value rest : List Char} {f : Field}

/-- A value begins with a character that is neither space nor the end of an array. -/
theorem Field.Value.head (h : f.Value value) :
    ∃ c more, value = c :: more ∧ isSpace c = false ∧ c ≠ ']' := by
  have quoted {s cs : List Char} (h : Quoted s cs) :
      ∃ c more, s = c :: more ∧ isSpace c = false ∧ c ≠ ']' := by
    cases h with
    | mk _ => exact ⟨'"', _, rfl, rfl, by decide⟩
  cases h with
  | text h => exact quoted h
  | position whole _ =>
    obtain ⟨d, ds, same⟩ := List.exists_cons_of_ne_nil whole.ne_nil
    have digit : d.isDigit = true := whole.isDigit d (same ▸ List.mem_cons_self)
    refine ⟨d, ds, same, isSpace_of_isDigit digit, ?_⟩
    rintro rfl
    cases digit
  | noMatch => exact ⟨'n', _, rfl, rfl, by decide⟩
  | someMatch h => exact quoted h
  | wrongPosition number _ =>
    obtain ⟨c, more, same, visible, other, -⟩ := (WellFormed.number number).head
    exact ⟨c, more, same, visible, other⟩
  | other _ wellFormed =>
    obtain ⟨c, more, same, visible, other, -⟩ := wellFormed.head
    exact ⟨c, more, same, visible, other⟩

theorem nextValue_first (h : f.Value value) (space : Space ws) :
    nextValue true (ws ++ (value ++ rest)) = .ok (value ++ rest) := by
  obtain ⟨c, more, rfl, visible, other⟩ := h.head
  rw [List.cons_append, nextValue, space.skip_cons visible]
  simp

theorem nextValue_further (h : f.Value value) (space : Space ws) (space' : Space ws') :
    nextValue false (ws ++ ',' :: (ws' ++ (value ++ rest))) = .ok (value ++ rest) := by
  obtain ⟨c, more, rfl, visible, other⟩ := h.head
  rw [List.cons_append, nextValue, space.skip_cons rfl]
  simp [space'.skip_cons visible, other]

theorem readEnd_bracket (space : Space ws) : readEnd (ws ++ ']' :: rest) = .ok rest := by
  rw [readEnd, space.skip_cons rfl]
  rfl

theorem read_array (cs : List Char) : read ('[' :: cs) = readValues cs := by
  rw [read, skipSpace_cons rfl]
  rfl

end Arrays

/-! ## Reading snapshots -/

/-- Every spelling of a snapshot is read as the snapshot, whatever follows. -/
theorem Form.read {s : Snapshot} {cs : List Char} (h : Form s cs) (rest : List Char) :
    read (cs ++ rest) = .ok (s, rest) := by
  cases h with
  | object object said =>
    rw [object.read said.typed, said.taken]
    rfl
  | @array t p m ws₁ ws₂ ws₃ ws₄ ws₅ ws₆ text position lastMatch space₁ space₂ space₃ space₄ space₅
      space₆ =>
    have first := readText_value text (ws₂ ++ ',' :: (ws₃ ++ (p ++ (ws₄ ++ ',' :: (ws₅ ++ (m ++
      (ws₆ ++ ']' :: rest)))))))
    have second := readPosition_value position (space₄.endsNumber
      (endsNumber_comma (ws₅ ++ (m ++ (ws₆ ++ ']' :: rest)))))
    have third := readMatch_value lastMatch (ws₆ ++ ']' :: rest)
    simp only [List.cons_append, List.append_assoc, List.nil_append]
    rw [read_array, readValues]
    simp only [bind, Except.bind, nextValue_first text space₁, first,
      nextValue_further position space₂ space₃, second,
      nextValue_further lastMatch space₄ space₅, third, readEnd_bracket space₆]
    rfl

theorem read_space {ws : List Char} (h : Space ws) (cs : List Char) : read (ws ++ cs) = read cs := by
  rw [read, read, h.skip]

/-- Space around what is read makes no difference. -/
theorem ofJson_of_read {ws cs ws' : List Char} (space : Space ws) (space' : Space ws')
    {outcome : Except ReadError Snapshot}
    (h : read (cs ++ ws') = outcome.map fun s => (s, ws')) :
    ofJson (String.ofList (ws ++ (cs ++ ws'))) = outcome := by
  rw [ofJson, String.toList_ofList, read_space space, h]
  cases outcome with
  | error e => rfl
  | ok s =>
    simp only [Except.map, bind, Except.bind, space'.skip_all]
    rfl

/-- **Snapshots are read as they are meant, however they are spelled.** An object that gives the text
and the position once and the remembered match at most once is read as the snapshot of these, whatever
the order of its members, whatever other members it has, wherever space stands and however strings and
names are escaped; and so is an array of the three values. If a member is repeated or missing, the
object is refused as not of the form asked for, and one with a position that is no natural number of
64 bits is refused. -/
theorem read_as_spelled {ws ws' : List Char} (space : Space ws) (space' : Space ws') :
    (∀ s cs, Form s cs → ofJson (String.ofList (ws ++ (cs ++ ws'))) = .ok s) ∧
    (∀ fs cs, Object fs cs → .wrongPosition ∉ fs →
      ((fs.filterMap Field.text?).length ≠ 1 ∨ (fs.filterMap Field.position?).length ≠ 1 ∨
        1 < (fs.filterMap Field.lastMatch?).length) →
      ofJson (String.ofList (ws ++ (cs ++ ws'))) = .error .unexpected) ∧
    ∀ fs cs, Object fs cs → .wrongPosition ∈ fs →
      ∃ e, ofJson (String.ofList (ws ++ (cs ++ ws'))) = .error e := by
  refine ⟨?_, ?_, ?_⟩
  · intro s cs form
    exact ofJson_of_read space space' (form.read ws')
  · intro fs cs object typed incomplete
    refine ofJson_of_read space space' ?_
    rw [object.read typed, taken_of_incomplete typed incomplete]
  · intro fs cs object wrong
    obtain ⟨e, failed⟩ := object.read_wrong wrong ws'
    exact ⟨e, ofJson_of_read space space' failed⟩

/-- Members out of order, two of them of another name and passed over, with escapes in a name and in
the text; then an object without a text, and one at position minus zero. -/
theorem read_as_spelled_mixed :
    ofJson ("\t\x7B \"x\":[\x7B\x7D,-0.5e+1 ],\"position\" :18446744073709551615,\n" ++
        "\"\\u0074ext\": \"\\/\\uD83D\\ude00é\",\"x\":\"\\udfff\"\x7D\r\n") =
      .ok ⟨"/😀é", 18446744073709551615, none⟩ ∧
    ofJson "\x7B\"position\":0\x7D" = .error .unexpected ∧
    ∃ e, ofJson "\x7B\"position\":-0\x7D" = .error e := by
  have tight : Space [] := by decide
  have blank : Space [' '] := by decide
  have newline : Space ['\n'] := by decide
  have around : Space ['\t'] ∧ Space ['\r', '\n'] := by decide
  -- the members, from the first on
  have number : Number ['-'] ['0'] ['.', '5'] ['e', '+', '1'] :=
    ⟨.inr rfl, .zero, .some ⟨by decide, List.all_eq_true.1 rfl, rfl⟩,
      .some (.inl rfl) (.inr (.inl rfl)) ⟨by decide, List.all_eq_true.1 rfl, rfl⟩⟩
  have items := WellFormed.item (.emptyObject tight) tight tight (.lastItem (.number number) blank)
  have array : Field.Spelled (.other "x") _ :=
    .mk (quoted_writeString _) tight tight (.other (by decide) (.array tight items)) tight
  have greatest : Field.Value (.position 18446744073709551615) _ :=
    @Field.Value.position "18446744073709551615".toList
      (.digits (by decide) (List.all_eq_true.1 rfl)) (by decide)
  have position := Field.Spelled.mk (quoted_writeString _) blank tight greatest tight
  have name : Quoted _ "text".toList :=
    .mk (.cons (@spells_unit 't' '0' '0' '7' '4' rfl) (.cons (writeChar_spells 'e')
      (.cons (writeChar_spells 'x') (.cons (writeChar_spells 't') .nil))))
  have characters : Quoted _ "/😀é".toList :=
    .mk (.cons (@Spells.short '/' _ rfl)
      (.cons (@spells_pair '😀' 'D' '8' '3' 'D' 'd' 'e' '0' '0' (by decide) rfl rfl)
        (.cons (writeChar_spells 'é') .nil)))
  have text : Field.Spelled (.text "/😀é") _ := .mk name tight blank (.text characters) tight
  have part : ∀ p ∈ [['\\', 'u', 'd', 'f', 'f', 'f']], Part p :=
    List.forall_mem_singleton.2 (.unit rfl)
  have string : Field.Spelled (.other "x") _ :=
    .mk (quoted_writeString _) tight tight (.other (by decide) (.string (.mk part))) tight
  have mixed := Object.fields blank
    (.more array tight (.more position newline (.more text tight (.last string))))
  -- those of the objects that are refused
  have zero := Field.Spelled.mk (quoted_writeString _) tight tight
    (Field.value_toDigits (by decide : 0 < Text.wordLimit)) tight
  have minusZero : Field.Spelled .wrongPosition _ :=
    .mk (quoted_writeString _) tight tight
      (@Field.Value.wrongPosition ['-'] ['0'] [] [] ⟨.inr rfl, .zero, .none, .none⟩ (by decide)) tight
  have read {text : String} {cs : List Char} {outcome : Except ReadError Snapshot}
      (h : ofJson (String.ofList cs) = outcome) (same : text.toList = cs) :
      ofJson text = outcome := by
    rwa [← same, String.ofList_toList] at h
  refine ⟨?_, ?_, ?_⟩
  · have said : Says [.other "x", .position 18446744073709551615, .text "/😀é", .other "x"]
        ⟨"/😀é", 18446744073709551615, none⟩ :=
      ⟨by decide, rfl, rfl, .inr ⟨rfl, rfl⟩⟩
    exact read ((read_as_spelled around.1 around.2).1 _ _ (.object mixed said)) rfl
  · exact read ((read_as_spelled tight tight).2.1 _ _ (.fields tight (.last zero)) (by decide)
      (by decide)) rfl
  · obtain ⟨e, failed⟩ :=
      (read_as_spelled tight tight).2.2 _ _ (.fields tight (.last minusZero)) (by decide)
    exact ⟨e, read failed rfl⟩

end TextCursor.Snapshot
