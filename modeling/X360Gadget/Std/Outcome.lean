/-!
# Computations that may panic

A panicking thread leaves its state behind, so `Outcome` keeps the state beside
the reason and the effects before the panic stay observable.
-/

namespace X360Gadget.Std

/-- Why a thread panicked. -/
inductive Panic where
  /-- An index or a slice bound outside its array. -/
  | outOfBounds
  /-- `unwrap` on a mutex that another thread poisoned. -/
  | poisonedLock
deriving DecidableEq, Repr

/-- A result, or the panic and the state it left behind. -/
abbrev Outcome (State Result : Type) := Except (Panic × State) Result

namespace Outcome

variable {State : Type}

/-- The state a computation ended in, by returning or by panicking. -/
def finalState : Outcome State State → State
  | .ok state => state
  | .error (_, state) => state

@[simp] theorem finalState_ok (state : State) :
    finalState (.ok state : Outcome State State) = state := rfl

@[simp] theorem finalState_error (why : Panic) (state : State) :
    finalState (.error (why, state) : Outcome State State) = state := rfl

/-- The computation ran into an index or a slice bound outside its array. -/
def OutOfBounds {Result : Type} (outcome : Outcome State Result) : Prop :=
  ∃ state, outcome = .error (.outOfBounds, state)

@[simp] theorem not_outOfBounds_ok {Result : Type} (result : Result) :
    ¬OutOfBounds (.ok result : Outcome State Result) := by
  rintro ⟨state, ⟨⟩⟩

end Outcome

end X360Gadget.Std
