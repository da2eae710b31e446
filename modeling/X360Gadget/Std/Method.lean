import X360Gadget.Std.Outcome

/-!
# Fallible methods on mutable state

A `Method` returns a value or an error, or panics, and leaves a state in each
case. `result` and `stateAfter` take it apart, and their equations for `andThen`
and `on` carry facts about the parts of a method to the whole.
-/

namespace X360Gadget.Std

/-- The three ways a call can end. -/
inductive Ending where
  | value
  | error
  | panic
deriving DecidableEq, Repr

/-- A method that borrows `State` mutably. -/
def Method (State Error Result : Type) : Type :=
  State → Outcome State (Except Error Result × State)

namespace Method

variable {State Part Error Result Value : Type}

/-- What the call returned, if it did not panic. -/
def result (method : Method State Error Result) (state : State) : Option (Except Error Result) :=
  match method state with
  | .ok (returned, _) => some returned
  | .error _ => none

/-- The state the call left, by returning or by panicking. -/
def stateAfter (method : Method State Error Result) (state : State) : State :=
  match method state with
  | .ok (_, after) => after
  | .error (_, after) => after

/-- How the call ended. -/
def ending (method : Method State Error Result) (state : State) : Ending :=
  match method state with
  | .ok (.ok _, _) => .value
  | .ok (.error _, _) => .error
  | .error _ => .panic

/-- A call that returns a value or panics, as a method. -/
def infallible (call : State → Outcome State (Result × State)) : Method State Error Result :=
  fun state =>
    match call state with
    | .ok (value, after) => .ok (.ok value, after)
    | .error panic => .error panic

/-- Return a value. -/
def returns (value : Result) : Method State Error Result := fun state => .ok (.ok value, state)

/-- `first?`, then the rest on its value. -/
def andThen (first : Method State Error Value) (rest : Value → Method State Error Result) :
    Method State Error Result := fun state =>
  match first state with
  | .ok (.ok value, after) => rest value after
  | .ok (.error error, after) => .ok (.error error, after)
  | .error panic => .error panic

/-- A method of a part, on the whole. -/
def on (get : State → Part) (set : State → Part → State) (method : Method Part Error Result) :
    Method State Error Result := fun state =>
  match method (get state) with
  | .ok (returned, part) => .ok (returned, set state part)
  | .error (why, part) => .error (why, set state part)

@[simp] theorem result_returns (value : Result) (state : State) :
    (returns value : Method State Error Result).result state = some (.ok value) := rfl

@[simp] theorem stateAfter_returns (value : Result) (state : State) :
    (returns value : Method State Error Result).stateAfter state = state := rfl

/-- A method ends with a value exactly when it returns one. -/
theorem ending_eq_value_iff {method : Method State Error Result} {state : State} :
    method.ending state = .value ↔ ∃ value, method.result state = some (.ok value) := by
  unfold ending result
  rcases method state with ⟨why, after⟩ | ⟨error | value, after⟩ <;> simp

/-- A method ends with an error exactly when it returns one. -/
theorem ending_eq_error_iff {method : Method State Error Result} {state : State} :
    method.ending state = .error ↔ ∃ error, method.result state = some (.error error) := by
  unfold ending result
  rcases method state with ⟨why, after⟩ | ⟨error | value, after⟩ <;> simp

/-- Methods that agree in a state leave the same state. -/
theorem stateAfter_congr {first second : Method State Error Result} {state : State}
    (same : first state = second state) : first.stateAfter state = second.stateAfter state := by
  rw [stateAfter, stateAfter, same]

/-- What a method returns, read from its outcome. -/
theorem result_of_eq_ok {method : Method State Error Result} {state after : State}
    {returned : Except Error Result} (called : method state = .ok (returned, after)) :
    method.result state = some returned := by
  rw [result, called]

/-- The state that a method leaves, read from its outcome. -/
theorem stateAfter_of_eq_ok {method : Method State Error Result} {state after : State}
    {returned : Except Error Result} (called : method state = .ok (returned, after)) :
    method.stateAfter state = after := by
  rw [stateAfter, called]

/-- A call that returned is what it returned and the state it left. -/
theorem eq_ok_of_result {method : Method State Error Result} {state : State}
    {returned : Except Error Result} (result : method.result state = some returned) :
    method state = .ok (returned, method.stateAfter state) := by
  unfold Method.result at result
  unfold stateAfter
  cases called : method state with
  | ok pair =>
      rw [called, Option.some.injEq] at result
      rw [← result]
  | error panic =>
      rw [called] at result
      cases result

section On

variable (get : State → Part) (set : State → Part → State) (method : Method Part Error Result)
  (state : State)

@[simp] theorem result_on : (method.on get set).result state = method.result (get state) := by
  unfold result on
  cases method (get state) <;> rfl

@[simp] theorem stateAfter_on :
    (method.on get set).stateAfter state = set state (method.stateAfter (get state)) := by
  unfold stateAfter on
  cases method (get state) <;> rfl

end On

section AndThen

variable {first : Method State Error Value} {rest : Value → Method State Error Result}
  {state : State}

/-- After a value the rest runs on that value. -/
theorem andThen_of_ok {value : Value} {after : State}
    (called : first state = .ok (.ok value, after)) :
    first.andThen rest state = rest value after := by
  rw [andThen, called]

/-- After an error the rest does not run. -/
theorem andThen_of_error {error : Error} {after : State}
    (called : first state = .ok (.error error, after)) :
    first.andThen rest state = .ok (.error error, after) := by
  rw [andThen, called]

/-- After a value the rest decides what is returned. -/
theorem result_andThen_of_ok {value : Value} (returned : first.result state = some (.ok value)) :
    (first.andThen rest).result state = (rest value).result (first.stateAfter state) := by
  rw [result, andThen_of_ok (eq_ok_of_result returned)]
  rfl

/-- A panic of the first part is one of the whole. -/
theorem result_andThen_of_none (panicked : first.result state = none) :
    (first.andThen rest).result state = none := by
  unfold result at panicked ⊢
  unfold andThen
  cases called : first state with
  | ok pair =>
      rw [called] at panicked
      cases panicked
  | error panic => rfl

/-- After a value the rest decides the state. -/
theorem stateAfter_andThen_of_ok {value : Value}
    (returned : first.result state = some (.ok value)) :
    (first.andThen rest).stateAfter state = (rest value).stateAfter (first.stateAfter state) := by
  rw [stateAfter, andThen_of_ok (eq_ok_of_result returned)]
  rfl

/-- An error or a panic of the first part is one of the whole. -/
theorem stateAfter_andThen_of_not_ok (failed : ∀ value, first.result state ≠ some (.ok value)) :
    (first.andThen rest).stateAfter state = first.stateAfter state := by
  unfold result at failed
  unfold stateAfter andThen
  cases called : first state with
  | ok pair =>
      obtain ⟨outcome, after⟩ := pair
      cases outcome with
      | ok value => exact absurd (by rw [called]) (failed value)
      | error error => rfl
  | error panic => rfl

/-- What both parts preserve, the sequence preserves. -/
theorem stateAfter_andThen_induction (property : State → Prop)
    (start : property (first.stateAfter state))
    (kept : ∀ value after, property after → property ((rest value).stateAfter after)) :
    property ((first.andThen rest).stateAfter state) := by
  by_cases returned : ∃ value, first.result state = some (.ok value)
  · obtain ⟨value, returned⟩ := returned
    rw [stateAfter_andThen_of_ok returned]
    exact kept value _ start
  · rw [stateAfter_andThen_of_not_ok fun value same => returned ⟨value, same⟩]
    exact start

end AndThen

end Method

end X360Gadget.Std
