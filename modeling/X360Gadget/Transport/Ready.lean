import X360Gadget.Transport.Configured
import X360Gadget.Transport.Gadget

/-!
# When ready means usable

`wait_ready` returns once a SET_CONFIGURATION was handled, and that request
prints a failed `EP_ENABLE` and goes on. The two agree along a run exactly when
each handled SET_CONFIGURATION finds or gets a handle for every endpoint.
-/

namespace X360Gadget.Transport

open X360Gadget.Descriptors X360Gadget.Kernel X360Gadget.Std

variable {K : Type}

/-- Both endpoints of each of the first `n` slots have a handle. -/
def AllActive (n : Nat) (shared : SharedState) : Prop :=
  ∀ i (_ : i < 4), i < n → shared.epIn[i].isSome ∧ shared.epOut[i].isSome

/-- What `wait_ready` promises. -/
def ReadyMeansUsable (n : Nat) (g : Gadget K) : Prop :=
  g.world.shared.ready = true → AllActive n g.world.shared

/-- A SET_CONFIGURATION handled now finds or gets a handle for every endpoint. -/
def EnablesAll (os : Os K) (n : Nat) (w : Ep0World K) : Prop :=
  ∀ i (_ : i < 4), i < n →
    (w.shared.epIn[i].isSome ∨ (epInAnswer os w.kernel i).isSome) ∧
      (w.shared.epOut[i].isSome ∨ (epOutAnswer os w.kernel i).isSome)

/-- The step handles no SET_CONFIGURATION that leaves an endpoint without a handle. -/
def ConfiguresFully (os : Os K) (n : Nat) (g : Gadget K) (action : GadgetAction) : Prop :=
  ∀ event, action = .fetch (.ok event) → Configures event → g.world.poisoned = false →
    EnablesAll os n g.world

/-- After the request every endpoint is active exactly when it found or got a handle. -/
theorem allActive_configured_iff {os : Os K} {n : Nat} {w : Ep0World K} :
    AllActive n (configured os n w).shared ↔ EnablesAll os n w := by
  have filled : ∀ (answer held : Option Int32),
      (answer.or held).isSome = true ↔ held.isSome = true ∨ answer.isSome = true := by
    intro answer held
    cases answer <;> simp
  constructor
  · intro active i bound slot
    have cells := active i bound slot
    rw [configured_epIn i bound, configured_epOut i bound, if_pos slot, if_pos slot, filled,
      filled] at cells
    exact cells
  · intro enables i bound slot
    rw [configured_epIn i bound, configured_epOut i bound, if_pos slot, if_pos slot, filled, filled]
    exact enables i bound slot

/-- One step keeps the promise exactly under its condition. -/
theorem readyMeansUsable_step {os : Os K} {n : Nat} {g next : Gadget K} {action : GadgetAction}
    (holds : ReadyMeansUsable n g) (stepped : WorldStep os n g.world action next.world) :
    ReadyMeansUsable n next ↔ ConfiguresFully os n g action := by
  have seen := stepped.tableStep
  generalize after : next.world = w at seen
  cases seen with
  | detached event detach sound =>
      refine iff_of_true ?_ ?_
      · intro ready
        rw [after] at ready
        cases ready
      · rintro _ ⟨⟩ configures
        exact absurd configures (not_configures_of_isDetach detach)
  | configured event configures sound =>
      have promise : ReadyMeansUsable n next ↔ AllActive n (configured os n g.world).shared := by
        rw [ReadyMeansUsable, after]
        exact forall_prop_of_true rfl
      rw [promise, allActive_configured_iff]
      constructor
      · intro enables _ _ _ _
        exact enables
      · intro meets
        exact meets event rfl configures sound
  | uneventful action w kept =>
      refine iff_of_true ?_ ?_
      · rw [ReadyMeansUsable, after, kept.shared]
        exact holds
      · intro event isEvent configures sound
        rw [kept.blocked event isEvent (.inr configures)] at sound
        cases sound

/-- Along a run, ready means usable in every state exactly when every handled
SET_CONFIGURATION configures fully. -/
theorem readyMeansUsable_iff {os : Os K} {numInterfaces : UInt8} {desc : DescriptorBytes}
    {kernel : K} {actions : List GadgetAction} {g : Gadget K} (few : numInterfaces.toNat ≤ 4)
    (runs : (gadget os numInterfaces desc).run (.new kernel) actions = some g) :
    (gadget os numInterfaces desc).Always (ReadyMeansUsable numInterfaces.toNat)
        (.new kernel) actions ↔
      (gadget os numInterfaces desc).EachStep (ConfiguresFully os numInterfaces.toNat)
        (.new kernel) actions := by
  have notReady : ReadyMeansUsable numInterfaces.toNat (Gadget.new kernel) := by
    intro ready
    cases ready
  refine Machine.always_iff_eachStep _ (fun _ => True) _ _ ?_ ?_ trivial notReady runs
  · intro _ _ _ _ _
    trivial
  · intro state action next _ holds stepped
    exact readyMeansUsable_step holds (gadget_worldStep few stepped)

/-- A kernel that enables every endpoint. -/
theorem readyMeansUsable_counting :
    ∃ g, (gadget .counting 1 ⟨[], [], [], [], none, none, none⟩).run (.new 0)
        [.fetch (.ok (.setConfiguration 1))] = some g ∧
      (gadget .counting 1 ⟨[], [], [], [], none, none, none⟩).Always (ReadyMeansUsable 1)
        (.new 0) [.fetch (.ok (.setConfiguration 1))] := by
  have runs : (gadget .counting 1 ⟨[], [], [], [], none, none, none⟩).run (.new 0)
      [.fetch (.ok (.setConfiguration 1))] = some _ := rfl
  refine ⟨_, runs, (readyMeansUsable_iff (by decide) runs).mpr ?_⟩
  refine (Machine.eachStep_cons _ rfl).mpr ⟨?_, Machine.eachStep_nil _⟩
  intro event _ _ _ i bound slot
  obtain rfl : i = 0 := Nat.lt_one_iff.mp slot
  exact ⟨.inr (by decide), .inr (by decide)⟩

/-- A kernel that enables nothing leaves a ready device without endpoints. -/
theorem not_readyMeansUsable_failing :
    ∃ g, (gadget (⟨fun k _ => (⟨-1, 22⟩, k)⟩ : Os Unit) 1 ⟨[], [], [], [], none, none, none⟩).run
        (.new ()) [.fetch (.ok (.setConfiguration 1))] = some g ∧ ¬ReadyMeansUsable 1 g := by
  refine ⟨_, rfl, ?_⟩
  intro usable
  exact absurd (usable rfl 0 (by decide) (by decide)).1 (by decide)

end X360Gadget.Transport
