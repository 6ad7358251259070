import TextCursor.Proofs.Json.Truncation
import TextCursor.Proofs.Snapshot.RoundTrip

/-!
# Damaged snapshots

What is left of a written snapshot when it breaks off, anywhere, is found to end too early; and when
something other than space follows it, it is found malformed: `damage_is_noticed`. In particular what is
left of a text or of a position is never taken for another.

The reader meets the place where the snapshot breaks off in one of its members
(`Field.Known.readMembers_cut`), or between two of them; `Listed.readMembers_cut` puts these together.
-/

namespace TextCursor.Snapshot

open TextCursor.Json

/-! ## Values that break off -/

section Values

variable {value ws ws' p : List Char}

theorem readText_cut {text : String} (h : Quoted value text.toList) (cut : Cut p value) :
    readText p = .error .truncated := by
  rcases h.readString_cut cut with rfl | ⟨inside, rfl, failed⟩
  · rfl
  · rw [readText, skipSpace_cons rfl]
    simp only [failed]
    rfl

theorem readMatch_cut {m : Option String} (h : (Field.lastMatch m).Value value)
    (cut : Cut p value) : readMatch p = .error .truncated := by
  cases h with
  | noMatch =>
    cases cut with
    | nil => rfl
    | cons cut =>
      rw [readMatch, skipSpace_cons rfl]
      show (expect ['u', 'l', 'l'] _).map _ = _
      rw [expect_cut cut]
      rfl
  | someMatch quoted =>
    have failed := readText_cut quoted cut
    rcases quoted.readString_cut cut with rfl | ⟨inside, rfl, -⟩
    · rfl
    · show (readText ('"' :: inside)).map _ = _
      rw [failed]
      rfl

/-- What is left of a position is read to its end. -/
theorem readPosition_cut {n : Nat} (h : (Field.position n).Value value) (cut : Cut p value) :
    Exhausts (readPosition p) := by
  cases h with
  | position whole fits =>
    rcases whole.of_cut cut with rfl | digits
    · exact .inl rfl
    · have less := Nat.lt_of_le_of_lt (cut.ofDigitChars_le 0) fits
      have read := readPosition_value (.position digits less) endsNumber_nil
      rw [List.append_nil] at read
      exact .inr ⟨_, [], read, nofun⟩

end Values

/-! ## Members that break off -/

theorem readColon_space_all {ws : List Char} (h : Space ws) : readColon ws = .error .truncated := by
  rw [readColon, h.skip_all]

section Members

variable {f : Field} {m m' : Members} {value ws₁ ws₂ ws₃ p : List Char}

/-- What is read behind the colon is exhausted, and so the member is. -/
theorem exhausts_behind_colon {α : Type} {read : List Char → Except ReadError (α × List Char)}
    {cs : List Char} (values : ∀ q, Cut q cs → Exhausts (read q)) (space : Space ws₁)
    (cut : Cut p (ws₁ ++ ':' :: cs)) (f : α → Members) :
    Exhausts ((readColon p).bind fun rest => (read rest).map fun r => (f r.1, r.2)) := by
  rcases cut.of_visible space with before | ⟨q, rfl, behind⟩
  · rw [readColon_space_all before]
    exact .inl rfl
  · rw [readColon_space space]
    exact (values q behind).map f

/-- A member that can be taken has not been met before. -/
theorem not_of_ite_eq_ok {repeated : Prop} [Decidable repeated] {e : ReadError}
    (h : (if repeated then .error e else .ok m) = Except.ok m') : ¬ repeated := by
  intro met
  rw [if_pos met] at h
  cases h

/-- The value of a member that can be taken is read to its end, if it breaks off. -/
theorem Field.Known.readMember_cut (known : f.Known) (h : f.Value value) (taken : m.take f = .ok m')
    (space₁ : Space ws₁) (space₂ : Space ws₂) (space₃ : Space ws₃)
    (cut : Cut p (ws₁ ++ ':' :: (ws₂ ++ (value ++ ws₃)))) : Exhausts (readMember m f.name p) := by
  cases known with
  | text text =>
    rw [Field.name, readMember_text, if_neg (not_of_ite_eq_ok taken)]
    refine exhausts_behind_colon (fun q => ?_) space₁ cut fun value => { m with text := some value }
    cases h with
    | text quoted =>
      exact exhausts_of_cut (fun cs space => readText_space space) rfl
        (fun rest _ => readText_quoted quoted rest) (fun p cut => .inl (readText_cut quoted cut))
        space₂ space₃
  | position n =>
    rw [Field.name, readMember_position, if_neg (not_of_ite_eq_ok taken)]
    refine exhausts_behind_colon (fun q => ?_) space₁ cut fun value =>
      { m with position := some value }
    exact exhausts_of_cut (fun cs space => readPosition_space space) rfl
      (fun rest => readPosition_value h) (fun p => readPosition_cut h) space₂ space₃
  | lastMatch lastMatch =>
    rw [Field.name, readMember_lastMatch, if_neg (not_of_ite_eq_ok taken)]
    refine exhausts_behind_colon (fun q => ?_) space₁ cut fun value =>
      { m with lastMatch := some value }
    exact exhausts_of_cut (fun cs space => readMatch_space space) rfl
      (fun rest _ => readMatch_value h rest) (fun p cut => .inl (readMatch_cut h cut)) space₂ space₃

end Members

/-! ## Objects that break off -/

/-- Where what comes next is missing, the object is found to break off. -/
theorem readMembers_of_next {first : Bool} {cs : List Char} (h : next first cs = .error .truncated)
    (fuel : Nat) (m : Members) : readMembers fuel first m cs = .error .truncated := by
  cases fuel with
  | zero => rfl
  | succ fuel =>
    rw [readMembers, h]
    rfl

theorem exists_take {f : Field} {fs : List Field} {m last : Members}
    (h : (f :: fs).foldlM Members.take m = .ok last) :
    ∃ m', m.take f = .ok m' ∧ fs.foldlM Members.take m' = .ok last := by
  rw [List.foldlM_cons] at h
  cases taken : m.take f with
  | error e =>
    rw [taken] at h
    cases h
  | ok m' =>
    rw [taken] at h
    exact ⟨m', rfl, h⟩

section Objects

variable {first : Bool} {before cs p : List Char} {m m' : Members}

/-- A member that breaks off is found to, in its name, in its value or in the space around these. -/
theorem Field.Known.readMembers_cut {f : Field} (known : f.Known) (h : f.Spelled cs)
    (taken : m.take f = .ok m') (leads : Leads first before) (cut : Cut p cs) (fuel : Nat) :
    readMembers fuel first m (before ++ p) = .error .truncated := by
  cases h with
  | @mk name value ws₁ ws₂ ws₃ named space₁ space₂ valued space₃ =>
    rcases cut.of_append with inside | ⟨q, rfl, behind⟩
    · rcases named.readString_cut inside with rfl | ⟨rest, rfl, failed⟩
      · rw [List.append_nil]
        exact readMembers_of_next leads.misses fuel m
      · cases fuel with
        | zero => rfl
        | succ fuel => simp only [readMembers, leads.begins, failed, bind, Except.bind]
    · -- a position that breaks off is read, but then the brace is missed
      obtain ⟨rest, same, names⟩ := named.readString q
      cases fuel with
      | zero => rfl
      | succ fuel =>
        rw [same, readMembers_member (leads.begins rest) names, String.ofList_toList]
        rcases known.readMember_cut valued taken space₁ space₂ space₃ behind with
          failed | ⟨m', ws, read, space⟩
        · rw [failed]
          rfl
        · rw [read]
          exact readMembers_of_next (next_space_all space false) fuel m'

/-- A member is read, and what is left of the others is found to break off. -/
theorem Field.Known.readMembers_rest {f : Field} (known : f.Known) (h : f.Spelled cs)
    (taken : m.take f = .ok m') (leads : Leads first before) (ends : EndsNumber p)
    (broken : ∀ fuel, readMembers fuel false m' p = .error .truncated) (fuel : Nat) :
    readMembers fuel first m (before ++ (cs ++ p)) = .error .truncated := by
  have typed : f ≠ .wrongPosition := by
    rintro rfl
    cases known
  cases fuel with
  | zero => rfl
  | succ fuel =>
    rw [h.readMembers typed leads ends, taken]
    exact broken fuel

/-- Members that break off are found to, wherever that is. -/
theorem Listed.readMembers_cut {fs : List Field} (h : Listed fs cs) (known : ∀ f ∈ fs, f.Known)
    {last : Members} (taken : fs.foldlM Members.take m = .ok last) (leads : Leads first before)
    (cut : Cut p cs) (fuel : Nat) :
    Snapshot.readMembers fuel first m (before ++ p) = .error .truncated := by
  have nothing (m : Members) (fuel : Nat) : Snapshot.readMembers fuel false m [] = .error .truncated :=
    readMembers_of_next (next_space_all space_nil false) fuel m
  induction h generalizing first before m p fuel with
  | @last f cs spelled =>
    have one := known f (List.mem_singleton_self f)
    obtain ⟨m', take, -⟩ := exists_take taken
    rcases cut.of_append with inside | ⟨q, rfl, behind⟩
    · exact one.readMembers_cut spelled take leads inside fuel
    · rw [behind.eq_nil]
      exact one.readMembers_rest spelled take leads endsNumber_nil (nothing m') fuel
  | @more f fs cs ws ds spelled space others ih =>
    have one := known f List.mem_cons_self
    obtain ⟨m', take, taken'⟩ := exists_take taken
    rcases cut.of_append with inside | ⟨q, rfl, behind⟩
    · exact one.readMembers_cut spelled take leads inside fuel
    · -- the member is whole, and the text breaks off at the comma, behind it or in another member
      cases behind with
      | nil => exact one.readMembers_rest spelled take leads endsNumber_nil (nothing m') fuel
      | @cons _ q _ behind =>
        refine one.readMembers_rest spelled take leads (endsNumber_comma q) (fun fuel => ?_) fuel
        rcases behind.of_append with between | ⟨u, rfl, further⟩
        · exact readMembers_of_next (leads_comma (between.space space)).misses fuel m'
        · exact ih (fun g mem => known g (List.mem_cons_of_mem f mem)) taken' (leads_comma space)
            further fuel

theorem read_of_readMembers {cs : List Char}
    (h : ∀ fuel, readMembers fuel true {} cs = .error .truncated) :
    read ('\x7B' :: cs) = .error .truncated := by
  rw [read_object, h]
  rfl

/-- An object of members that can be taken is found to break off, wherever that is. -/
theorem Object.read_cut {fs : List Field} (h : Object fs cs) (known : ∀ f ∈ fs, f.Known)
    {last : Members} (taken : fs.foldlM Members.take {} = .ok last) (cut : Cut p cs) :
    Snapshot.read p = .error .truncated := by
  have blank {ws : List Char} (space : Space ws) : Snapshot.read ('\x7B' :: ws) = .error .truncated :=
    read_of_readMembers fun fuel => readMembers_of_next (next_space_all space true) fuel {}
  cases h with
  | empty space =>
    cases cut with
    | nil => rfl
    | cons cut =>
      rcases cut.of_visible space with before | ⟨q, rfl, behind⟩
      · exact blank before
      · cases behind
  | fields space listed =>
    cases cut with
    | nil => rfl
    | cons cut =>
      rcases cut.of_append with before | ⟨q, rfl, behind⟩
      · exact blank (before.space space)
      · refine read_of_readMembers fun fuel => ?_
        rw [readMembers_space space]
        exact listed.readMembers_cut known taken leads_first behind fuel

end Objects

/-! ## Snapshots that break off or go on -/

/-- What is left of a written snapshot that breaks off is found to end too early. -/
theorem read_cut {s : Snapshot} (fits : s.position < Text.wordLimit) {p : List Char}
    (cut : Cut p s.toJson.toList) : read p = .error .truncated :=
  (object_toJson fits).read_cut (known_fields s) rfl cut

/-- **Damage to a written snapshot is noticed.** Whatever is left of it when it breaks off, after any
number of characters, is found to end too early. With something behind it, it is read as before if that
is nothing but space, and found malformed otherwise. -/
theorem damage_is_noticed {s : Snapshot} (fits : s.position < Text.wordLimit) :
    (∀ p t : String, p ++ t = s.toJson → t ≠ "" → ofJson p = .error .truncated) ∧
    ∀ t : String, ofJson (s.toJson ++ t) = if Space t.toList then .ok s else .error .malformed := by
  refine ⟨?_, ?_⟩
  · intro p t whole lost
    have some : t.toList ≠ [] := by simpa using lost
    have cut : Cut p.toList s.toJson.toList := by
      rw [← whole, String.toList_append]
      exact cut_append_of_ne_nil some
    rw [ofJson, read_cut fits cut]
    rfl
  · intro t
    rw [ofJson, String.toList_append, read_toJson fits]
    simp only [bind, Except.bind]
    split_ifs with space
    · rw [space.skip_all]
      rfl
    · obtain ⟨c, cs, more⟩ : ∃ c cs, skipSpace t.toList = c :: cs :=
        List.exists_cons_of_ne_nil fun none => space (skipSpace_eq_nil_iff.1 none)
      rw [more]

/-- An escape and a position that break off, and what may follow. -/
theorem damage_is_noticed_accented :
    let s : Snapshot := ⟨"é\n", 12, none⟩
    ofJson "\x7B\"text\":\"é\\" = .error .truncated ∧
    ofJson "\x7B\"text\":\"é\\n\",\"position\":1" = .error .truncated ∧
    ofJson (s.toJson ++ "\n") = .ok s ∧ ofJson (s.toJson ++ "\x7D") = .error .malformed := by
  intro s
  have fits : s.position < Text.wordLimit := by decide
  refine ⟨?_, ?_, ?_, ?_⟩
  · exact (damage_is_noticed fits).1 _ "n\",\"position\":12,\"last_match\":null\x7D" (by decide)
      (by decide)
  · exact (damage_is_noticed fits).1 _ "2,\"last_match\":null\x7D" (by decide) (by decide)
  · rw [(damage_is_noticed fits).2, if_pos (by decide)]
  · rw [(damage_is_noticed fits).2, if_neg (by decide)]

end TextCursor.Snapshot
