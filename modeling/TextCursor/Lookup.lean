import TextCursor.ScanError

/-!
# Looking up keys

`charAt` gives the character at a place and refuses places outside the text. `slice` moves the
bounds of a slice into the text and then walks from one to the other. Both compute with signed
numbers of 64 bits; the walk stops where the next sum would not fit.
-/

namespace TextCursor.Lookup

/-- The sum of two numbers if it fits 64 bits. -/
def addFits? (a b : Int64) : Option Int64 :=
  let sum := a.toInt + b.toInt
  if Int64.minValue.toInt ≤ sum ∧ sum ≤ Int64.maxValue.toInt then some (Int64.ofInt sum) else none

/-- The character at a place. -/
def charAt (text : String) (index : Int64) : Except ScanError Char :=
  let cs := text.toList
  let outside : Except ScanError Char := .error (.outOfRange index.toInt cs.length)
  if cs.length < Text.signedLimit then
    let length := Int64.ofNat cs.length
    let resolved := if index < 0 then index + length else index
    if resolved < 0 || length ≤ resolved then outside
    else
      match cs[resolved.toInt.toNat]? with
      | some c => .ok c
      | none => outside
  else outside

/-- A bound moved into a text of the given length, for a walk forwards or backwards. Backwards,
`-1` stands for the place before the first character. -/
def clamp (length : Int64) (backwards : Bool) (bound : Int64) : Int64 :=
  if bound < 0 then
    let bound := bound + length
    if bound < 0 then (if backwards then -1 else 0) else bound
  else if length ≤ bound then (if backwards then length - 1 else length)
  else bound

/-- The characters met on the way from one place towards another, by equal steps. At most `fuel`
characters are met. -/
def walk (cs : Array Char) (stop step : Int64) : (fuel : Nat) → (i : Int64) → List Char
  | 0, _ => []
  | fuel + 1, i =>
    if (0 < step && i < stop) || (step < 0 && stop < i) then
      match cs[i.toInt.toNat]? with
      | some c =>
        c :: match addFits? i step with
          | some next => walk cs stop step fuel next
          | none => []
      | none => []
    else []

/-- The characters of a slice. -/
def slice (text : String) (start stop step : Option Int64) : Except ScanError String :=
  if step = some 0 then .error (.zeroStep (.slice start stop step))
  else
    let cs := text.toList.toArray
    let length := Int64.ofNat cs.size
    let stride := step.getD 1
    let backwards := stride < 0
    let first := if backwards then length - 1 else 0
    let last := if backwards then -1 else length
    let start := (start.map (clamp length backwards)).getD first
    let stop := (stop.map (clamp length backwards)).getD last
    .ok (String.ofList (walk cs stop stride (cs.size + 1) start))

/-- What a key gives of a text. -/
def get (text : String) : Key → Except ScanError String
  | .place i => (charAt text i).map String.singleton
  | .slice start stop step => slice text start stop step

end TextCursor.Lookup
