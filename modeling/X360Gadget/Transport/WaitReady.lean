import X360Gadget.Std.Monitor
import X360Gadget.Transport.Gadget
import X360Gadget.Transport.InputWrites

/-!
# The condition variable of `wait_ready`

The machine of all threads takes `wait_ready` in one step. The code locks the shared
state and waits on the condition variable as long as it is not ready, while the ep0
thread holds the same lock over each SET_CONFIGURATION and detach. `waitReady` is
this protocol over that machine, and `waitReady_refines` says that the one step is
what a caller sees of it, and that no notification comes too early.
-/

namespace X360Gadget.Transport

open X360Gadget.Descriptors X360Gadget.Kernel X360Gadget.Std

variable {K : Type}

/-- The mutex is poisoned, so that `lock` and `wait` panic, or `ready` is set. -/
def Released (g : Gadget K) : Prop := g.world.poisoned = true ∨ g.world.shared.ready = true

instance (g : Gadget K) : Decidable (Released g) := inferInstanceAs (Decidable (_ ∨ _))

/-- A step that takes the mutex. -/
def takesLock : GadgetAction → Bool
  | .fetch (.ok event) => IsDetach event ∨ Configures event
  | .lookup _ _ => true
  | _ => false

section Protocol

variable (os : Os K) (numInterfaces : UInt8) (desc : DescriptorBytes)

/-- A SET_CONFIGURATION that does not panic calls `notify_all`. -/
def notifiesAll (g : Gadget K) : GadgetAction → Bool
  | .fetch (.ok event) =>
      Configures event ∧ (handleEvent os numInterfaces desc event g.world).isOk = true
  | _ => false

/-- All steps of the machine but `wait_ready`, and what it waits for. -/
def waitReady : Monitor (Gadget K) GadgetAction where
  operations :=
    { step := fun g action =>
        if action = .waitReady then none else g.step os numInterfaces desc action }
  locks := takesLock
  notifies := notifiesAll os numInterfaces desc
  owned action := ¬IsBackground action
  callable g := g.CallerIdle
  released g := Released g

end Protocol

/-- The step a completed wait stands for. -/
def asGadgetAction : GadgetAction ⊕ Unit → GadgetAction
  | .inl action => action
  | .inr () => .waitReady

section Disciplined

variable {os : Os K} {numInterfaces : UInt8} {desc : DescriptorBytes} {g next : Gadget K}
  {action : GadgetAction}

/-- An operation of the monitor is a step of the gadget other than the wait. -/
theorem step_of_operations
    (stepped : (waitReady os numInterfaces desc).operations.step g action = some next) :
    action ≠ .waitReady ∧ (gadget os numInterfaces desc).step g action = some next := by
  change (if action = .waitReady then none else g.step os numInterfaces desc action) = some next
    at stepped
  rw [Option.ite_none_left_eq_some] at stepped
  exact stepped

/-- A SET_CONFIGURATION on a sound mutex runs to its notification. -/
theorem notifiesAll_of_configures (few : numInterfaces.toNat ≤ 4) {event : UsbRawControlEvent}
    (configures : Configures event) (sound : g.world.poisoned = false) :
    notifiesAll os numInterfaces desc g (.fetch (.ok event)) = true := by
  have outcome : HandledAs os numInterfaces.toNat event g.world
      (handleEvent os numInterfaces desc event g.world) := handleEvent_handledAs few
  refine decide_eq_true ⟨configures, ?_⟩
  cases handled : handleEvent os numInterfaces desc event g.world with
  | ok w => rfl
  | error panic =>
      rw [handled] at outcome
      cases outcome with
      | panicked why blocked =>
          rw [blocked (.inr configures)] at sound
          cases sound

/-- What sets `ready` or poisons the mutex holds it, and notifies or is the caller. -/
theorem announced (few : numInterfaces.toNat ≤ 4) (stepped : WorldStep os numInterfaces.toNat
      g.world action next.world) (unreleased : ¬Released g) (released : Released next) :
    takesLock action = true ∧
      (notifiesAll os numInterfaces desc g action = true ∨ ¬IsBackground action) := by
  have sound : g.world.poisoned = false := eq_false_of_ne_true fun poisoned =>
    unreleased (.inl poisoned)
  unfold Released at unreleased released
  generalize after : next.world = w at stepped released
  cases stepped with
  | handled event w' outcome =>
      cases outcome with
      | ignored attached other => exact absurd released unreleased
      | answered attached other call reply => exact absurd released unreleased
      | detached detach sound =>
          rcases released with poisoned | ready
          · exact absurd (.inl poisoned) unreleased
          · cases ready
      | configured configures sound =>
          refine ⟨decide_eq_true (.inr configures), .inl ?_⟩
          exact notifiesAll_of_configures few configures sound
  | panicked event blocked => exact absurd released unreleased
  | readerEnded reader read => exact absurd released unreleased
  | poisoned slot report => exact ⟨rfl, .inr id⟩
  | wrote io => exact absurd released unreleased
  | unchanged action noEvent => exact absurd released unreleased

/-- The machine follows the rules of the protocol. -/
theorem disciplined_waitReady (few : numInterfaces.toNat ≤ 4) :
    (waitReady os numInterfaces desc).Disciplined Unit where
  announces := by
    intro g action next stepped unreleased released
    obtain ⟨-, stepped⟩ := step_of_operations stepped
    obtain ⟨locks, announced⟩ := announced few (gadget_worldStep few stepped)
      (of_decide_eq_false unreleased) (of_decide_eq_true released)
    exact ⟨locks, announced.imp_right fun owned => ⟨decide_eq_true owned, inferInstance⟩⟩
  undisturbed := by
    intro g action next stepped callable
    obtain ⟨-, stepped⟩ := step_of_operations stepped
    by_cases background : IsBackground action
    · have idle := callerIdle_of_background (of_decide_eq_true callable) background stepped
      exact .inl (decide_eq_true idle)
    · exact .inr ⟨decide_eq_true background, inferInstance⟩

end Disciplined

/-- A completed wait is the one step of the machine. -/
theorem run_asGadgetAction {os : Os K} {numInterfaces : UInt8} {desc : DescriptorBytes}
    {g finish : Gadget K} {actions : List (GadgetAction ⊕ Unit)}
    (runs : ((waitReady os numInterfaces desc).atomic Unit).run g actions = some finish) :
    (gadget os numInterfaces desc).run g (actions.map asGadgetAction) = some finish := by
  induction actions generalizing g with
  | nil => exact runs
  | cons action rest ih =>
      rw [Machine.run_cons, Option.bind_eq_some_iff] at runs
      obtain ⟨next, stepped, remaining⟩ := runs
      have taken : (gadget os numInterfaces desc).step g (asGadgetAction action) = some next := by
        cases action with
        | inl action => exact (step_of_operations stepped).2
        | inr wait =>
            simp only [Monitor.atomic, waitReady, decide_eq_true_eq] at stepped
            exact stepped
      rw [List.map_cons, Machine.run_cons, taken]
      exact ih remaining

/-- Whatever the threads do, a run of the protocol is a run of the machine in which
each wait that returned is one step; no caller is parked while the device is ready;
and once it is, a caller that finds the lock free, or has it, returns in at most two
steps of its own. -/
theorem waitReady_refines {os : Os K} {numInterfaces : UInt8} {desc : DescriptorBytes}
    (few : numInterfaces.toNat ≤ 4) {kernel : K}
    {actions : List (Monitor.Action GadgetAction Unit)}
    {s : Monitor.State (Gadget K) GadgetAction Unit}
    (runs : (waitReady os numInterfaces desc).protocol.run (.init (.new kernel)) actions =
      some s) :
    (gadget os numInterfaces desc).run (.new kernel)
        (((waitReady os numInterfaces desc).protocol.image (waitReady os numInterfaces desc).linear
          (.init (.new kernel)) actions).map asGadgetAction) = some s.shared ∧
      (s.phase () = .parked → ¬Released s.shared) ∧
      (s.phase () ≠ .outside → Released s.shared →
        s.holder = none ∨ s.holder = some (.waiter ()) →
          ∃ own, (own = [.test ()] ∨ own = [.acquire (), .test ()]) ∧
            (waitReady os numInterfaces desc).protocol.run s own =
              some { s.moved () .outside with holder := none }) := by
  have disciplined : (waitReady os numInterfaces desc).Disciplined Unit :=
    disciplined_waitReady few
  have sound := Monitor.sound_of_run disciplined runs
  refine ⟨run_asGadgetAction (Monitor.run_atomic disciplined runs), ?_, ?_⟩
  · intro parked
    exact of_decide_eq_false (sound.waits () (.inr parked))
  · intro inside released free
    rcases Monitor.returns_of_released sound inside (decide_eq_true released) free with
      tested | acquired
    · exact ⟨[.test ()], .inl rfl, tested⟩
    · exact ⟨[.acquire (), .test ()], .inr rfl, acquired⟩

/-- A caller that parked before the host configured the device returns after it. -/
theorem waitReady_refines_parked : ∃ s own,
    (waitReady .counting 1 ⟨[], [], [], [], none, none, none⟩).protocol.run (.init (.new 0))
        [.call (), .acquire (), .test (), .block (), .begin (.fetch (.ok (.setConfiguration 1))),
          .finish] = some s ∧
      (own = [.test ()] ∨ own = [.acquire (), .test ()]) ∧
      (waitReady .counting 1 ⟨[], [], [], [], none, none, none⟩).protocol.run s own =
        some { s.moved () .outside with holder := none } := by
  have runs : (waitReady .counting 1 ⟨[], [], [], [], none, none, none⟩).protocol.run
      (.init (.new 0)) [.call (), .acquire (), .test (), .block (),
        .begin (.fetch (.ok (.setConfiguration 1))), .finish] = some _ := rfl
  obtain ⟨-, -, returns⟩ := waitReady_refines (by decide) runs
  obtain ⟨own, alone, ends⟩ := returns (by decide) (by decide) (.inl rfl)
  exact ⟨_, own, runs, alone, ends⟩

end X360Gadget.Transport
