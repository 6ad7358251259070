import Mathlib
import TextCursor.Log
import TextCursor.Proofs.Text.Trim

/-!
# Spellings of levels

A level is given by its name, in letters of either case of ASCII, with blank characters around it
(`Spells`). `ofName?_trim_eq_some_iff` says that just these texts are read as the level, and
`readLevel_cases` what each value of the variable gives.

`Quiet` are the values with which the log takes no more than warnings. A log of such a level takes
no event (`Quiet.not_admits`), but always the warning about a value that is no level
(`admits_warning`).
-/

namespace TextCursor.Settings

open LogLevel (ofName?)

/-! ## Spellings -/

/-- A text that gives a level: its name in letters of either case, between blank characters. -/
def Spells (level : LogLevel) (given : String) : Prop :=
  ∃ before name behind : List Char,
    (∀ c ∈ before, Text.isBlank c = true) ∧ (∀ c ∈ behind, Text.isBlank c = true) ∧
    name.map Char.toLower = level.name.toList.map Char.toLower ∧
    given.toList = before ++ (name ++ behind)

/-- A text that gives no level. -/
def Unnamed (given : String) : Prop :=
  ∀ level, ¬ Spells level given

/-- Names of levels are in capital letters, so to raise the letters of a text and to lower those of
both tells the same. -/
theorem map_toUpper_eq_name_iff {name : List Char} {level : LogLevel} :
    name.map Char.toUpper = level.name.toList ↔
      name.map Char.toLower = level.name.toList.map Char.toLower := by
  have capital : level.name.toList.map Char.toUpper = level.name.toList := by
    cases level <;> decide
  constructor
  · intro raised
    rw [← raised, List.map_map]
    exact List.map_congr_left fun c _ => (Char.toLower_toUpper_eq_toLower c).symm
  · intro lowered
    calc name.map Char.toUpper
      _ = (name.map Char.toLower).map Char.toUpper := by
        rw [List.map_map]
        exact List.map_congr_left fun c _ => (Char.toUpper_toLower_eq_toUpper c).symm
      _ = (level.name.toList.map Char.toLower).map Char.toUpper := by rw [lowered]
      _ = level.name.toList.map Char.toUpper := by
        rw [List.map_map]
        exact List.map_congr_left fun c _ => Char.toUpper_toLower_eq_toUpper c
      _ = level.name.toList := capital

/-- A level is read from its name in either case, and no two levels from one name. -/
theorem ofName?_eq_some_iff {name : List Char} {level : LogLevel} :
    ofName? name = some level ↔ name.map Char.toLower = level.name.toList.map Char.toLower := by
  rw [← map_toUpper_eq_name_iff]
  constructor
  · intro read
    have same := List.find?_some read
    exact (beq_iff_eq.1 same).symm
  · intro raised
    rw [ofName?, raised]
    cases level <;> rfl

theorem not_isBlank_of_isAlpha {c : Char} (h : c.isAlpha = true) : Text.isBlank c = false := by
  simp only [Char.isAlpha, Char.isUpper, Char.isLower, Bool.or_eq_true, Bool.and_eq_true,
    decide_eq_true_eq, ge_iff_le, UInt32.le_iff_toNat_le, Char.toNat_val] at h
  simp [Text.isBlank] at h ⊢
  omega

/-- No character of a name is blank, for they are letters. -/
theorem not_isBlank_of_spelled {name : List Char} {level : LogLevel}
    (spelled : name.map Char.toLower = level.name.toList.map Char.toLower) {c : Char}
    (mem : c ∈ name) : Text.isBlank c = false := by
  have letters : level.name.toList.all Char.isAlpha = true := by
    cases level <;> decide
  have lowered : c.toLower ∈ level.name.toList.map Char.toLower :=
    spelled ▸ List.mem_map_of_mem mem
  obtain ⟨d, among, same⟩ := List.mem_map.1 lowered
  apply not_isBlank_of_isAlpha
  rw [← Char.isAlpha_toLower_eq_isAlpha, ← same, Char.isAlpha_toLower_eq_isAlpha]
  exact List.all_eq_true.1 letters d among

/-- Just the spellings of a level are read as that level. -/
theorem ofName?_trim_eq_some_iff {given : String} {level : LogLevel} :
    ofName? (Text.trim given.toList) = some level ↔ Spells level given := by
  rw [ofName?_eq_some_iff]
  constructor
  · intro spelled
    obtain ⟨before, behind, front, back, whole⟩ := Text.exists_blank_around given.toList
    exact ⟨before, _, behind, front, back, spelled, whole⟩
  · rintro ⟨before, name, behind, front, back, spelled, whole⟩
    rw [whole, Text.trim_append_left front, Text.trim_append_right back,
      Text.trim_of_not_blank fun c mem => not_isBlank_of_spelled spelled mem, spelled]

/-- A text that gives no level is read as none. -/
theorem ofName?_trim_eq_none_iff {given : String} :
    ofName? (Text.trim given.toList) = none ↔ Unnamed given := by
  rw [Option.eq_none_iff_forall_ne_some]
  exact forall_congr' fun level => not_congr ofName?_trim_eq_some_iff

/-! ## Values of the variable -/

/-- What a value of the variable gives: no log without one, the level that it spells, or else a log
of warnings and the value itself, untrimmed, to be warned about. -/
theorem readLevel_cases (value : Option String) :
    (value = none ∧ readLevel value = (.off, none)) ∨
    (∃ given level, value = some given ∧ Spells level given ∧ readLevel value = (level, none)) ∨
    (∃ given, value = some given ∧ Unnamed given ∧ readLevel value = (.warn, some given)) := by
  cases value with
  | none => exact .inl ⟨rfl, rfl⟩
  | some given =>
    cases read : ofName? (Text.trim given.toList) with
    | none =>
      refine .inr (.inr ⟨given, rfl, ofName?_trim_eq_none_iff.1 read, ?_⟩)
      rw [readLevel, read]
    | some level =>
      refine .inr (.inl ⟨given, level, rfl, ofName?_trim_eq_some_iff.1 read, ?_⟩)
      rw [readLevel, read]

/-- The values with which the log takes no more than warnings: none at all, a spelling of one of the
three least levels, and a text that gives no level. -/
inductive Quiet : Option String → Prop
  | unset : Quiet none
  | named {level : LogLevel} {given : String} :
      level = .off ∨ level = .error ∨ level = .warn → Spells level given → Quiet (some given)
  | unnamed {given : String} : Unnamed given → Quiet (some given)

theorem invalidLogLevel_ofVariables (value history home : Option String) :
    (ofVariables value history home).invalidLogLevel = (readLevel value).2 := rfl

/-- With a quiet value the log takes no events. -/
theorem Quiet.not_admits {value : Option String} (h : Quiet value) :
    (readLevel value).1.admits .debug = false := by
  cases h with
  | unset => rfl
  | named least spelled =>
    rw [readLevel, ofName?_trim_eq_some_iff.2 spelled]
    rcases least with rfl | rfl | rfl
    · rfl
    · rfl
    · rfl
  | unnamed unnamed =>
    rw [readLevel, ofName?_trim_eq_none_iff.2 unnamed]
    rfl

/-- A value that is warned about makes for a log that takes warnings. -/
theorem admits_warning {value : Option String} {given : String}
    (warned : (readLevel value).2 = some given) : (readLevel value).1.admits .warn = true := by
  rcases readLevel_cases value with ⟨-, read⟩ | ⟨_, _, -, -, read⟩ | ⟨_, -, -, read⟩
  · rw [read] at warned
    cases warned
  · rw [read] at warned
    cases warned
  · rw [read]
    rfl

end TextCursor.Settings
