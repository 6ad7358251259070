import TextCursor.Event

/-!
# Effects

What an operation on a state gives: a result or an error, the state after it in either case, and
the events that it reports. An operation that fails may have reported events, and the state that
it leaves is part of what it says.
-/

namespace TextCursor

/-- The outcome of an operation on a state of type `σ`. -/
structure Effect (σ ε α : Type) where
  result : Except ε α
  after : σ
  log : List Event

namespace Effect

variable {σ τ ε δ α β : Type}

/-- A result that leaves the state as it is and reports nothing. -/
def done (a : α) (s : σ) : Effect σ ε α :=
  ⟨.ok a, s, []⟩

/-- An error that leaves the state as it is and reports nothing. -/
def fail (e : ε) (s : σ) : Effect σ ε α :=
  ⟨.error e, s, []⟩

/-- The outcome of an operation that only looks at the state. -/
def ofExcept (r : Except ε α) (s : σ) : Effect σ ε α :=
  ⟨r, s, []⟩

/-- The same outcome with another form of result. -/
def map (f : α → β) (e : Effect σ ε α) : Effect σ ε β :=
  { e with result := e.result.map f }

/-- The same outcome with another form of error. -/
def mapError (f : ε → δ) (e : Effect σ ε α) : Effect σ δ α :=
  { e with result := e.result.mapError f }

/-- The same outcome seen as one of an operation on a larger state. -/
def mapState (f : σ → τ) (e : Effect σ ε α) : Effect τ ε α :=
  { e with after := f e.after }

/-- An operation after another, unless that one failed. -/
def andThen (e : Effect σ ε α) (next : α → σ → Effect σ ε β) : Effect σ ε β :=
  match e.result with
  | .error err => ⟨.error err, e.after, e.log⟩
  | .ok a =>
    let e' := next a e.after
    { e' with log := e.log ++ e'.log }

/-- The same outcome with events reported before it. -/
def logging (events : List Event) (e : Effect σ ε α) : Effect σ ε α :=
  { e with log := events ++ e.log }

/-! ## What each form shows -/

@[simp]
theorem after_fail (e : ε) (s : σ) : (fail e s : Effect σ ε α).after = s := rfl

@[simp]
theorem result_map (f : α → β) (e : Effect σ ε α) : (e.map f).result = e.result.map f := rfl

@[simp]
theorem after_map (f : α → β) (e : Effect σ ε α) : (e.map f).after = e.after := rfl

@[simp]
theorem after_mapError (f : ε → δ) (e : Effect σ ε α) : (e.mapError f).after = e.after := rfl

@[simp]
theorem log_map (f : α → β) (e : Effect σ ε α) : (e.map f).log = e.log := rfl

theorem result_map_of_ok {e : Effect σ ε α} {a : α} (h : e.result = .ok a) (f : α → β) :
    (e.map f).result = .ok (f a) := by
  rw [result_map, h, Except.map]

theorem result_map_of_error {e : Effect σ ε α} {err : ε} (h : e.result = .error err)
    (f : α → β) : (e.map f).result = .error err := by
  rw [result_map, h, Except.map]

theorem result_mapError_of_ok {e : Effect σ ε α} {a : α} (h : e.result = .ok a) (f : ε → δ) :
    (e.mapError f).result = .ok a := by
  rw [mapError, h]
  rfl

theorem result_andThen_of_ok {e : Effect σ ε α} {a : α} (h : e.result = .ok a)
    (next : α → σ → Effect σ ε β) : (e.andThen next).result = (next a e.after).result := by
  rw [andThen, h]

theorem result_andThen_of_error {e : Effect σ ε α} {err : ε} (h : e.result = .error err)
    (next : α → σ → Effect σ ε β) : (e.andThen next).result = .error err := by
  rw [andThen, h]

end Effect

end TextCursor
