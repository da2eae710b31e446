import Mathlib.Data.List.Induction

/-!
# Partial deterministic machines

A `Machine` takes an action only in the states where `step` is defined, so a
completed run says both that each action was possible and which state it
reached. `Machine.run_invariant` carries an invariant along a run, and
`Machine.always_iff_eachStep` lifts an exact condition on single steps to an
exact condition on every state of a run, and `Machine.eachResult_iff_eachStep`
on what each action led to. `Machine.run_budget` bounds how often
a run does what costs it something.
-/

namespace X360Gadget.Std

universe u v w x

/-- A deterministic machine whose actions may be impossible in some states. -/
structure Machine (State : Type u) (Action : Type v) where
  step : State → Action → Option State

namespace Machine

variable {State : Type u} {Action : Type v} (machine : Machine State Action)

/-- Take the actions in order, stopping without a result at an impossible one. -/
def run : State → List Action → Option State
  | state, [] => some state
  | state, action :: rest => (machine.step state action).bind fun next => run next rest

@[simp] theorem run_nil (state : State) : machine.run state [] = some state := rfl

@[simp] theorem run_cons (state : State) (action : Action) (rest : List Action) :
    machine.run state (action :: rest) =
      (machine.step state action).bind fun next => machine.run next rest := rfl

/-- Runs compose at the state where the first part stops. -/
theorem run_append (state : State) (first second : List Action) :
    machine.run state (first ++ second) =
      (machine.run state first).bind fun middle => machine.run middle second := by
  induction first generalizing state with
  | nil => rfl
  | cons action rest ih =>
      simp only [List.cons_append, run_cons, Option.bind_assoc]
      congr 1
      funext next
      exact ih next

/-- What no step looks at, no run looks at. -/
theorem run_map {forget : Action → Action}
    (blind : ∀ state action, machine.step state (forget action) = machine.step state action)
    (start : State) (actions : List Action) :
    machine.run start (actions.map forget) = machine.run start actions := by
  induction actions generalizing start with
  | nil => rfl
  | cons action rest ih =>
      rw [List.map_cons, run_cons, run_cons, blind]
      congr 1
      funext next
      exact ih next

/-- A run that ends with one more action passes through the state before it. -/
theorem run_concat_eq_some {start finish : State} {actions : List Action} {action : Action} :
    machine.run start (actions ++ [action]) = some finish ↔
      ∃ state, machine.run start actions = some state ∧
        machine.step state action = some finish := by
  rw [run_append, Option.bind_eq_some_iff]
  simp

/-- What each step preserves, each run preserves. -/
theorem run_invariant (Inv : State → Prop)
    (preserved : ∀ {state action next}, Inv state →
      machine.step state action = some next → Inv next)
    {start finish : State} {actions : List Action} (holds : Inv start)
    (runs : machine.run start actions = some finish) : Inv finish := by
  induction actions generalizing start with
  | nil =>
      cases runs
      exact holds
  | cons action rest ih =>
      rw [run_cons, Option.bind_eq_some_iff] at runs
      obtain ⟨next, stepped, remaining⟩ := runs
      exact ih (preserved holds stepped) remaining

/-- `property` holds in every state a run from `start` passes through. -/
def Always (property : State → Prop) (start : State) (actions : List Action) : Prop :=
  ∀ taken state, taken <+: actions → machine.run start taken = some state → property state

/-- Each action of a run from `start` is taken in a state where `condition` allows it. -/
def EachStep (condition : State → Action → Prop) (start : State) (actions : List Action) : Prop :=
  ∀ taken action state, taken ++ [action] <+: actions →
    machine.run start taken = some state → condition state action

@[simp] theorem always_nil {property : State → Prop} {start : State} :
    machine.Always property start [] ↔ property start := by
  constructor
  · intro always
    exact always [] start List.nil_prefix rfl
  · intro holds taken state isPrefix runs
    obtain rfl := List.prefix_nil.mp isPrefix
    cases runs
    exact holds

@[simp] theorem eachStep_nil {condition : State → Action → Prop} {start : State} :
    machine.EachStep condition start [] := by
  intro taken action state isPrefix
  have short := isPrefix.length_le
  simp at short

/-- `Always` at the first state of a run and along the rest of it. -/
theorem always_cons {property : State → Prop} {start next : State} {action : Action}
    {rest : List Action} (stepped : machine.step start action = some next) :
    machine.Always property start (action :: rest) ↔
      property start ∧ machine.Always property next rest := by
  constructor
  · intro always
    refine ⟨always [] start (List.nil_prefix) rfl, ?_⟩
    intro taken state isPrefix runs
    exact always (action :: taken) state (by simpa using isPrefix) (by simp [stepped, runs])
  · rintro ⟨first, later⟩ taken state isPrefix runs
    cases taken with
    | nil =>
        cases runs
        exact first
    | cons head taken =>
        obtain ⟨rfl, tailPrefix⟩ := List.cons_prefix_cons.mp isPrefix
        exact later taken state tailPrefix (by simpa [stepped] using runs)

/-- `EachStep` at the first action of a run and along the rest of it. -/
theorem eachStep_cons {condition : State → Action → Prop} {start next : State}
    {action : Action} {rest : List Action} (stepped : machine.step start action = some next) :
    machine.EachStep condition start (action :: rest) ↔
      condition start action ∧ machine.EachStep condition next rest := by
  constructor
  · intro each
    refine ⟨each [] action start (by simp) rfl, ?_⟩
    intro taken later state isPrefix runs
    exact each (action :: taken) later state (by simpa using isPrefix) (by simp [stepped, runs])
  · rintro ⟨first, later⟩ taken last state isPrefix runs
    cases taken with
    | nil =>
        obtain ⟨rfl, -⟩ := List.cons_prefix_cons.mp isPrefix
        cases runs
        exact first
    | cons head taken =>
        obtain ⟨rfl, tailPrefix⟩ := List.cons_prefix_cons.mp isPrefix
        exact later taken last state tailPrefix (by simpa [stepped] using runs)

/-- When a step from a state satisfying `property` keeps it exactly under
`condition`, a run keeps it throughout exactly when each of its steps meets the
condition. `Inv` supplies whatever else holds along every run. -/
theorem always_iff_eachStep (Inv property : State → Prop) (condition : State → Action → Prop)
    (preserved : ∀ {state action next}, Inv state →
      machine.step state action = some next → Inv next)
    (exactly : ∀ {state action next}, Inv state → property state →
      machine.step state action = some next → (property next ↔ condition state action))
    {start finish : State} {actions : List Action} (inv : Inv start) (holds : property start)
    (runs : machine.run start actions = some finish) :
    machine.Always property start actions ↔ machine.EachStep condition start actions := by
  induction actions generalizing start with
  | nil => simp [holds]
  | cons action rest ih =>
      rw [run_cons, Option.bind_eq_some_iff] at runs
      obtain ⟨next, stepped, remaining⟩ := runs
      have invNext := preserved inv stepped
      have oneStep := exactly inv holds stepped
      rw [machine.always_cons stepped, machine.eachStep_cons stepped]
      constructor
      · rintro ⟨-, later⟩
        have atNext : property next := later [] next List.nil_prefix rfl
        exact ⟨oneStep.mp atNext, (ih invNext atNext remaining).mp later⟩
      · rintro ⟨allowed, later⟩
        have atNext := oneStep.mpr allowed
        exact ⟨holds, (ih invNext atNext remaining).mpr later⟩

/-- `property` relates each action taken along a run from `start` to the state it
leads to. -/
def EachResult (property : Action → State → Prop) (start : State) (actions : List Action) : Prop :=
  ∀ taken action next, taken ++ [action] <+: actions →
    machine.run start (taken ++ [action]) = some next → property action next

/-- When a step keeps `property` exactly under `condition`, and `condition` says
nothing where an action is impossible, the results of a run have the property
exactly when each of its steps meets the condition. -/
theorem eachResult_iff_eachStep (Inv : State → Prop) (property : Action → State → Prop)
    (condition : State → Action → Prop)
    (preserved : ∀ {state action next}, Inv state →
      machine.step state action = some next → Inv next)
    (exactly : ∀ {state action next}, Inv state → machine.step state action = some next →
      (property action next ↔ condition state action))
    (impossible : ∀ {state action}, machine.step state action = none → condition state action)
    {start : State} (inv : Inv start) (actions : List Action) :
    machine.EachResult property start actions ↔ machine.EachStep condition start actions := by
  constructor
  · intro results taken action state isPrefix runs
    cases stepped : machine.step state action with
    | none => exact impossible stepped
    | some next =>
        have reached := machine.run_concat_eq_some.mpr ⟨state, runs, stepped⟩
        have here := machine.run_invariant Inv preserved inv runs
        exact (exactly here stepped).mp (results taken action next isPrefix reached)
  · intro each taken action next isPrefix reached
    obtain ⟨state, runs, stepped⟩ := machine.run_concat_eq_some.mp reached
    have here := machine.run_invariant Inv preserved inv runs
    exact (exactly here stepped).mpr (each taken action state isPrefix runs)

/-! ## Latches -/

section Simulation

variable {AbsState : Type w} {Abs : Type x} (view : State → Action → Option Abs)

/-- What a run does in the eyes of `view`, which sees each action in its state. -/
def image : State → List Action → List Abs
  | _, [] => []
  | state, action :: rest =>
      (view state action).toList ++ ((machine.step state action).map fun next =>
        image next rest).getD []

/-- The image of a longer run ends with what is seen of its last step. -/
theorem image_concat {start middle : State} {actions : List Action}
    (runs : machine.run start actions = some middle) (action : Action) :
    machine.image view start (actions ++ [action]) =
      machine.image view start actions ++ (view middle action).toList := by
  induction actions generalizing start with
  | nil =>
      cases runs
      rw [List.nil_append, image, image, List.nil_append]
      cases machine.step middle action with
      | none => exact List.append_nil _
      | some next => exact List.append_nil _
  | cons head rest ih =>
      rw [run_cons, Option.bind_eq_some_iff] at runs
      obtain ⟨next, stepped, remaining⟩ := runs
      rw [List.cons_append, image, image, stepped]
      dsimp only [Option.map_some, Option.getD_some]
      rw [ih remaining, List.append_assoc]

/-- What is seen of the actions alone is a filter of them. -/
theorem image_of_run {seen : Action → Option Abs} {start finish : State} {actions : List Action}
    (runs : machine.run start actions = some finish) :
    machine.image (fun _ => seen) start actions = actions.filterMap seen := by
  induction actions generalizing start with
  | nil => rfl
  | cons action rest ih =>
      rw [run_cons, Option.bind_eq_some_iff] at runs
      obtain ⟨next, stepped, remaining⟩ := runs
      rw [image, stepped, List.filterMap_cons]
      dsimp only [Option.map_some, Option.getD_some]
      rw [ih remaining]
      cases seen action <;> rfl

/-- A run whose steps are steps of another machine, or none, is a run of that machine. -/
theorem run_image {abstract : Machine AbsState Abs} {project : State → AbsState}
    (Inv : State → Prop)
    (preserved : ∀ {state action next}, Inv state →
      machine.step state action = some next → Inv next)
    (simulates : ∀ {state action next}, Inv state → machine.step state action = some next →
      abstract.run (project state) (view state action).toList = some (project next))
    {start finish : State} {actions : List Action} (holds : Inv start)
    (runs : machine.run start actions = some finish) :
    abstract.run (project start) (machine.image view start actions) = some (project finish) := by
  induction actions generalizing start with
  | nil =>
      cases runs
      rfl
  | cons action rest ih =>
      rw [run_cons, Option.bind_eq_some_iff] at runs
      obtain ⟨next, stepped, remaining⟩ := runs
      rw [image, run_append, simulates holds stepped, Option.bind_some, stepped]
      exact ih (preserved holds stepped) remaining

/-- The machine that only appends. -/
def writer (Item : Type x) : Machine (List Item) Item where
  step written item := some (written ++ [item])

/-- The writer appends the items that it is given. -/
theorem run_writer {Item : Type x} (written items : List Item) :
    (writer Item).run written items = some (written ++ items) := by
  induction items generalizing written with
  | nil => rw [run_nil, List.append_nil]
  | cons item rest ih =>
      change (writer Item).run (written ++ [item]) rest = _
      rw [ih, List.append_assoc]
      rfl

/-- What each step appends, a run appends in order. -/
theorem run_emits (Inv : State → Prop)
    (preserved : ∀ {state action next}, Inv state →
      machine.step state action = some next → Inv next) (output : State → List Abs)
    (emits : ∀ {state action next}, Inv state → machine.step state action = some next →
      output next = output state ++ (view state action).toList)
    {start finish : State} {actions : List Action} (holds : Inv start)
    (runs : machine.run start actions = some finish) :
    output finish = output start ++ machine.image view start actions := by
  have written : (writer Abs).run (output start) (machine.image view start actions) =
      some (output finish) := by
    refine machine.run_image view Inv preserved ?_ holds runs
    intro state action next holds stepped
    rw [run_writer, emits holds stepped]
  rw [run_writer, Option.some.injEq] at written
  exact written.symm

end Simulation

/-! ## Guards and budgets -/

section Guards

variable (condition : State → Action → Prop) [∀ state, DecidablePred (condition state)]

/-- The machine with a condition added to the guard of every action. -/
def guarded : Machine State Action where
  step state action := if condition state action then machine.step state action else none

variable {machine condition}

/-- A guarded machine takes the steps that the guard admits. -/
theorem guarded_step {state next : State} {action : Action} :
    (machine.guarded condition).step state action = some next ↔
      condition state action ∧ machine.step state action = some next :=
  Option.ite_none_right_eq_some

/-- The runs of the guarded machine are those whose actions all meet the condition. -/
theorem run_guarded_iff {start finish : State} {actions : List Action} :
    (machine.guarded condition).run start actions = some finish ↔
      machine.run start actions = some finish ∧ machine.EachStep condition start actions := by
  induction actions generalizing start with
  | nil => exact (and_iff_left machine.eachStep_nil).symm
  | cons action rest ih =>
      simp only [run_cons, Option.bind_eq_some_iff, guarded_step, ih]
      constructor
      · rintro ⟨next, ⟨met, stepped⟩, remaining, later⟩
        exact ⟨⟨next, stepped, remaining⟩, (machine.eachStep_cons stepped).mpr ⟨met, later⟩⟩
      · rintro ⟨⟨next, stepped, remaining⟩, each⟩
        obtain ⟨met, later⟩ := (machine.eachStep_cons stepped).mp each
        exact ⟨next, ⟨met, stepped⟩, remaining, later⟩

end Guards

/-- Where each action that spends is paid for from a budget, a run has no more of them
than the budget it starts with. -/
theorem run_budget (spends : Action → Bool) (budget : State → Nat) (Inv : State → Prop)
    (preserved : ∀ {state action next}, Inv state →
      machine.step state action = some next → Inv next)
    (paid : ∀ {state action next}, Inv state → machine.step state action = some next →
      (if spends action then 1 else 0) + budget next ≤ budget state)
    {start finish : State} {actions : List Action} (holds : Inv start)
    (runs : machine.run start actions = some finish) :
    actions.countP spends + budget finish ≤ budget start := by
  induction actions generalizing start with
  | nil =>
      cases runs
      exact Nat.le_of_eq (Nat.zero_add _)
  | cons action rest ih =>
      rw [run_cons, Option.bind_eq_some_iff] at runs
      obtain ⟨next, stepped, remaining⟩ := runs
      have first := paid holds stepped
      have later := ih (preserved holds stepped) remaining
      rw [List.countP_cons]
      omega

/-! ## Tracking -/

section Tracking

variable {AbsState : Type w} {abstract : Machine AbsState Action}
  {Tracks : AbsState → State → Prop}

/-- Where a machine can follow each step of another, it can follow each run. -/
theorem run_follows
    (follows : ∀ {abs state action next}, Tracks abs state → abstract.step abs action = some next →
      ∃ state', machine.step state action = some state' ∧ Tracks next state')
    {abs finish : AbsState} {start : State} {actions : List Action} (tracks : Tracks abs start)
    (runs : abstract.run abs actions = some finish) :
    ∃ state, machine.run start actions = some state ∧ Tracks finish state := by
  induction actions generalizing abs start with
  | nil =>
      cases runs
      exact ⟨start, rfl, tracks⟩
  | cons action rest ih =>
      rw [run_cons, Option.bind_eq_some_iff] at runs
      obtain ⟨next, stepped, remaining⟩ := runs
      obtain ⟨middle, followed, tracksNext⟩ := follows tracks stepped
      obtain ⟨state, completed, tracksFinish⟩ := ih tracksNext remaining
      refine ⟨state, ?_, tracksFinish⟩
      rw [run_cons, followed]
      exact completed

/-- When a machine ends exactly where the one it follows can go no further, its runs
that have not ended are the runs of the other. -/
theorem run_tracks (Ended : State → Prop)
    (follows : ∀ {abs state action next}, Tracks abs state → abstract.step abs action = some next →
      ∃ state', machine.step state action = some state' ∧ Tracks next state')
    (ends : ∀ {abs state action next}, Tracks abs state → abstract.step abs action = none →
      machine.step state action = some next → Ended next)
    (stays : ∀ {state action next}, Ended state → machine.step state action = some next →
      Ended next)
    (running : ∀ {abs state}, Tracks abs state → ¬Ended state)
    {abs : AbsState} {start : State} {actions : List Action} (tracks : Tracks abs start) :
    (∃ state, machine.run start actions = some state ∧ ¬Ended state) ↔
      (abstract.run abs actions).isSome := by
  constructor
  · rintro ⟨state, completed, notEnded⟩
    induction actions generalizing abs start with
    | nil => rfl
    | cons action rest ih =>
        rw [run_cons, Option.bind_eq_some_iff] at completed
        obtain ⟨next, stepped, remaining⟩ := completed
        cases followed : abstract.step abs action with
        | none =>
            have ended := ends tracks followed stepped
            exact absurd (machine.run_invariant Ended stays ended remaining) notEnded
        | some absNext =>
            obtain ⟨same, taken, tracksNext⟩ := follows tracks followed
            cases taken.symm.trans stepped
            rw [run_cons, followed]
            exact ih tracksNext remaining
  · intro goesOn
    obtain ⟨finish, runs⟩ := Option.isSome_iff_exists.mp goesOn
    obtain ⟨state, completed, tracksFinish⟩ := machine.run_follows follows tracks runs
    exact ⟨state, completed, running tracksFinish⟩

end Tracking

end Machine

end X360Gadget.Std
