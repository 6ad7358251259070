import TextCursor.Unicode.Version17

/-!
# Grapheme clusters

A text falls into grapheme clusters, the pieces that a reader takes for one sign: a letter with its
marks, a syllable, a flag of two letters, a picture joined from several. The rules are those of
extended grapheme clusters in version 17 of the standard. Whether a cluster goes on with a character
depends on what precedes it, of which `Context` keeps what the rules ask for.

`flatten_graphemes` says that the clusters together are the text, and `eq_singleton_of_control` that a
control character is a cluster of its own.
-/

namespace TextCursor.Text

open TextCursor.Unicode

namespace Grapheme

/-- The class of grapheme breaks that the character belongs to, if it belongs to one. -/
def break? (c : Char) : Option GraphemeBreak :=
  if c.toNat < 128 then
    if c = '\r' then some .carriageReturn
    else if c = '\n' then some .lineFeed
    else if ' ' ≤ c && c ≤ '~' then none
    else some .control
  else Version17.graphemeBreak? c

/-- Whether the character is a consonant that linking signs link. -/
def isConsonant (c : Char) : Bool :=
  128 ≤ c.toNat && Version17.consonantTable.contains c

/-- Whether the character is a pictograph. -/
def isPictograph (c : Char) : Bool :=
  128 ≤ c.toNat && Version17.pictographTable.contains c

/-- The zero width non-joiner, a mark that keeps consonants from being linked. -/
def nonJoiner : Char := '\u200C'

/-- How far a sequence that a further character may join has come. -/
inductive Progress where
  | none
  /-- It has its first character, and perhaps marks after it. -/
  | begun
  /-- It has what links it to the further character. -/
  | linked
  deriving DecidableEq, Repr

/-- What the rules ask for of the characters before a place. -/
structure Context where
  /-- The class of the last character. -/
  last : Option GraphemeBreak
  /-- Whether the regional indicators at the end are odd in number. -/
  oddIndicators : Bool
  /-- Consonants, with the signs that link them. -/
  consonants : Progress
  /-- Pictographs, with the joiners between them. -/
  pictographs : Progress
  deriving DecidableEq, Repr

namespace Context

/-- What precedes the first character of a text. -/
def initial : Context := ⟨none, false, .none, .none⟩

/-- How far the consonants have come after one more character. -/
def consonantsAfter (x : Context) (c : Char) : Progress :=
  if isConsonant c then .begun
  else if x.consonants = .none then .none
  else if Version17.linkerTable.contains c then .linked
  else if c = nonJoiner then .none
  else
    match break? c with
    | some .extend | some .joiner => x.consonants
    | _ => .none

/-- How far the pictographs have come after one more character. -/
def pictographsAfter (x : Context) (c : Char) : Progress :=
  if isPictograph c then .begun
  else
    match break? c, x.pictographs with
    | some .extend, .begun => .begun
    | some .joiner, .begun => .linked
    | _, _ => .none

/-- What precedes the place after one more character. -/
def after (x : Context) (c : Char) : Context where
  last := break? c
  oddIndicators := break? c = some .regionalIndicator && !x.oddIndicators
  consonants := x.consonantsAfter c
  pictographs := x.pictographsAfter c

/-- Whether a character belongs to the cluster of the characters before it. -/
def joins (x : Context) (c : Char) : Bool :=
  match x.last, break? c with
  | some .carriageReturn, some .lineFeed => true
  | some .control, _ | some .carriageReturn, _ | some .lineFeed, _ => false
  | _, some .control | _, some .carriageReturn | _, some .lineFeed => false
  | some .leadingConsonant, some .leadingConsonant
  | some .leadingConsonant, some .vowel
  | some .leadingConsonant, some .openSyllable
  | some .leadingConsonant, some .closedSyllable
  | some .openSyllable, some .vowel
  | some .openSyllable, some .trailingConsonant
  | some .vowel, some .vowel
  | some .vowel, some .trailingConsonant
  | some .closedSyllable, some .trailingConsonant
  | some .trailingConsonant, some .trailingConsonant => true
  | _, some .extend | _, some .joiner | _, some .spacingMark => true
  | some .prepend, _ => true
  | some .regionalIndicator, some .regionalIndicator => x.oddIndicators
  | _, _ =>
    (x.consonants = .linked && isConsonant c) || (x.pictographs = .linked && isPictograph c)

theorem joins_of_last_control {x : Context} (h : x.last = some .control) (c : Char) :
    x.joins c = false := by
  rw [joins, h]

theorem joins_of_control (x : Context) {c : Char} (h : break? c = some .control) :
    x.joins c = false := by
  rw [joins, h]
  cases x.last with
  | none => rfl
  | some b => cases b <;> rfl

end Context

/-- The clusters of a text, of which `cluster` is the one under way, its last character first. -/
def split (x : Context) (cluster : List Char) : List Char → List (List Char)
  | [] => [cluster.reverse]
  | c :: cs =>
    if x.joins c then split (x.after c) (c :: cluster) cs
    else cluster.reverse :: split (x.after c) [c] cs

theorem flatten_split (x : Context) (cluster cs : List Char) :
    (split x cluster cs).flatten = cluster.reverse ++ cs := by
  induction cs generalizing x cluster with
  | nil => simp [split]
  | cons c cs ih =>
    rw [split]
    split
    · simp [ih]
    · simp [ih]

/-- A control character joins no cluster, and none joins it: the cluster under way is that character
or does not hold it. -/
theorem eq_singleton_of_mem_split {c : Char} (control : break? c = some .control) {x : Context}
    {cluster : List Char} (under : c ∈ cluster → cluster = [c] ∧ x.last = some .control)
    {cs g : List Char} (h : g ∈ split x cluster cs) (mem : c ∈ g) : g = [c] := by
  induction cs generalizing x cluster with
  | nil =>
    rw [split, List.mem_singleton] at h
    subst h
    rw [(under (List.mem_reverse.1 mem)).1, List.reverse_singleton]
  | cons d cs ih =>
    have begins : c ∈ [d] → [d] = [c] ∧ (x.after d).last = some .control := by
      intro mem
      cases List.mem_singleton.1 mem
      exact ⟨rfl, control⟩
    rw [split] at h
    split at h
    · next joined =>
      -- neither the cluster nor what joins it is the control character
      have apart : c ∉ d :: cluster := by
        intro mem
        refine Bool.false_ne_true (Eq.trans ?_ joined)
        rcases List.mem_cons.1 mem with rfl | mem
        · exact (x.joins_of_control control).symm
        · exact (Context.joins_of_last_control (under mem).2 d).symm
      exact ih (fun mem => absurd mem apart) h
    · rcases List.mem_cons.1 h with rfl | h
      · rw [(under (List.mem_reverse.1 mem)).1, List.reverse_singleton]
      · exact ih begins h

end Grapheme

/-- The grapheme clusters of a text. -/
def graphemes : List Char → List (List Char)
  | [] => []
  | c :: cs => Grapheme.split (Grapheme.Context.initial.after c) [c] cs

/-- The clusters together are the text. -/
theorem flatten_graphemes (cs : List Char) : (graphemes cs).flatten = cs := by
  cases cs with
  | nil => rfl
  | cons c cs => simp [graphemes, Grapheme.flatten_split]

/-- A control character is a cluster of its own. -/
theorem eq_singleton_of_control {c : Char} (control : Grapheme.break? c = some .control)
    {cs g : List Char} (h : g ∈ graphemes cs) (mem : c ∈ g) : g = [c] := by
  cases cs with
  | nil => cases h
  | cons d cs =>
    refine Grapheme.eq_singleton_of_mem_split control ?_ h mem
    intro mem
    cases List.mem_singleton.1 mem
    exact ⟨rfl, control⟩

end TextCursor.Text
