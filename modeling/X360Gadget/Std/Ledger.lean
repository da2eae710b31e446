import X360Gadget.Std.Machine
import X360Gadget.Std.Takings

/-!
# Accounts along runs

A machine keeps the newest of what its steps post in a cell until a step takes it.
`account_of_run` turns the two laws of such a cell, each about one step, into an
account of the whole run: what was taken, after what it superseded, and what waits.
Everything posted before a moment at which the cell was empty is settled.
-/

namespace X360Gadget.Std

universe u v w x

namespace Machine

variable {State : Type u} {Action : Type v} {α : Type w} (machine : Machine State Action)

/-- What a step takes was in the cell and leaves it empty; any other step leaves what
it posts, or else what was there. -/
structure KeepsNewest (Inv : State → Prop) (cell : State → Option α)
    (posts takes : State → Action → Option α) : Prop where
  taken : ∀ {state action next value}, Inv state → machine.step state action = some next →
    takes state action = some value →
      cell state = some value ∧ cell next = none ∧ posts state action = none
  kept : ∀ {state action next}, Inv state → machine.step state action = some next →
    takes state action = none → cell next = (posts state action).or (cell state)

variable {machine} {Inv : State → Prop} {cell : State → Option α}
  {posts takes : State → Action → Option α}

/-- What a cell keeps may be seen through a function. -/
theorem KeepsNewest.map {β : Type x} (keeps : machine.KeepsNewest Inv cell posts takes)
    (f : α → β) : machine.KeepsNewest Inv (fun state => (cell state).map f)
      (fun state action => (posts state action).map f)
      (fun state action => (takes state action).map f) := by
  refine ⟨?_, ?_⟩
  · intro state action next value holds stepped took
    obtain ⟨taken, isTaken, rfl⟩ := Option.map_eq_some_iff.mp took
    obtain ⟨held, emptied, silent⟩ := keeps.taken holds stepped isTaken
    rw [held, emptied, silent]
    exact ⟨rfl, rfl, rfl⟩
  · intro state action next holds stepped took
    rw [keeps.kept holds stepped (Option.map_eq_none_iff.mp took)]
    cases posts state action <;> rfl

/-- A post is the newest of what waits. -/
theorem getLast?_concat_toList (pending : List α) (posted : Option α) :
    (pending ++ posted.toList).getLast? = posted.or pending.getLast? := by
  cases posted with
  | none => rw [Option.toList_none, List.append_nil, Option.none_or]
  | some value => rw [Option.toList_some, List.getLast?_concat, Option.some_or]

/-- The account of a run, with the newest of what waits in the cell. -/
theorem account_of_run (keeps : machine.KeepsNewest Inv cell posts takes)
    (preserved : ∀ {state action next}, Inv state →
      machine.step state action = some next → Inv next)
    {start finish : State} {actions : List Action} (holds : Inv start) (empty : cell start = none)
    (runs : machine.run start actions = some finish) : ∃ pending takings,
      Account (machine.image posts start actions) (machine.image takes start actions)
          pending takings ∧
        pending.getLast? = cell finish ∧
          ∀ earlier middle, earlier <+: actions → machine.run start earlier = some middle →
            cell middle = none → machine.image posts start earlier <+: settled takings := by
  induction actions using List.reverseRecOn generalizing finish with
  | nil =>
      cases runs
      refine ⟨[], [], .start [], empty.symm, ?_⟩
      intro earlier middle isPrefix _ _
      rw [List.prefix_nil.mp isPrefix]
      exact List.prefix_refl []
  | append_singleton actions action ih =>
      obtain ⟨middle, before, stepped⟩ := machine.run_concat_eq_some.mp runs
      obtain ⟨pending, takings, account, newest, cleared⟩ := ih before
      have here : Inv middle := machine.run_invariant Inv preserved holds before
      rw [image_concat machine posts before, image_concat machine takes before]
      cases took : takes middle action with
      | some value =>
          obtain ⟨held, emptied, silent⟩ := keeps.taken here stepped took
          rw [silent, Option.toList_none, List.append_nil]
          have settles := account.take (newest.trans held)
          refine ⟨[], _, settles, emptied.symm, ?_⟩
          intro earlier other isPrefix reached isEmpty
          rcases List.prefix_concat_iff.mp isPrefix with rfl | shorter
          · have unchanged : machine.image posts start (actions ++ [action]) =
                machine.image posts start actions := by
              rw [image_concat machine posts before, silent, Option.toList_none, List.append_nil]
            exact (unchanged.trans settles.settled_eq.symm) ▸ List.prefix_refl _
          · rw [settled_concat]
            exact (cleared earlier other shorter reached isEmpty).trans (List.prefix_append _ _)
      | none =>
          have holdsNewest := keeps.kept here stepped took
          rw [Option.toList_none, List.append_nil]
          refine ⟨_, takings, account.post _, ?_, ?_⟩
          · rw [getLast?_concat_toList, newest, holdsNewest]
          · intro earlier other isPrefix reached isEmpty
            rcases List.prefix_concat_iff.mp isPrefix with rfl | shorter
            · -- The cell shows the newest of what waits, so nothing waits.
              obtain rfl : finish = other := Option.some.inj (runs.symm.trans reached)
              have nothing : pending ++ (posts middle action).toList = [] := by
                rw [← List.getLast?_eq_none_iff, getLast?_concat_toList, newest, ← holdsNewest]
                exact isEmpty
              have posted := account.post (posts middle action).toList
              rw [nothing] at posted
              have whole := posted.settled_eq
              rw [← image_concat machine posts before] at whole
              exact whole ▸ List.prefix_refl _
            · exact cleared earlier other shorter reached isEmpty

end Machine

end X360Gadget.Std
