/-!
# Computations that may stop the process

An `exit` or a failed assertion ends a process from any depth of calls. `Ends`
says what holds when a computation returns and what holds when it stops, and its
rules carry this through sequences and loops.
-/

namespace X360Gadget.Std

universe u

variable {Why State Item Part Result : Type u}

/-- A returned result satisfies `returned` and a reason to stop `stopped`. -/
def Ends (stopped : Why → Prop) (returned : Result → Prop) : Except Why Result → Prop
  | .ok result => returned result
  | .error why => stopped why

namespace Ends

variable {stopped : Why → Prop}

/-- Rule of sequence. -/
theorem bind {middle : Part → Prop} {returned : Result → Prop} {first : Except Why Part}
    {rest : Part → Except Why Result} (before : Ends stopped middle first)
    (after : ∀ part, middle part → Ends stopped returned (rest part)) :
    Ends stopped returned (first >>= rest) := by
  cases first with
  | ok part => exact after part before
  | error why => exact before

/-- Rule of choice. -/
theorem ite {returned : Result → Prop} {condition : Prop} [Decidable condition]
    {yes no : Except Why Result} (whenTrue : Ends stopped returned yes)
    (whenFalse : Ends stopped returned no) :
    Ends stopped returned (if condition then yes else no) := by
  split
  · exact whenTrue
  · exact whenFalse

/-- Rule of consequence. -/
theorem weaken {strongStopped : Why → Prop} {strong returned : Result → Prop}
    {computation : Except Why Result} (ends : Ends strongStopped strong computation)
    (stops : ∀ why, strongStopped why → stopped why)
    (returns : ∀ result, strong result → returned result) :
    Ends stopped returned computation := by
  cases computation with
  | ok result => exact returns result ends
  | error why => exact stops why ends

/-- Loop rule: what every round keeps, the loop keeps. -/
theorem foldlM {Inv : State → Prop} {round : State → Item → Except Why State}
    (each : ∀ state item, Inv state → Ends stopped Inv (round state item)) {items : List Item}
    {state : State} (holds : Inv state) : Ends stopped Inv (items.foldlM round state) := by
  induction items generalizing state with
  | nil => exact holds
  | cons item rest ih =>
      rw [List.foldlM_cons]
      exact bind (each state item holds) fun _ => ih

end Ends

end X360Gadget.Std
