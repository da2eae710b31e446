import Mathlib.Data.List.Basic
import X360Gadget.Kernel.Driver
import X360Gadget.Transport.Ready

/-!
# Enumerating again after a reset

The kernel enables an endpoint only while it is disabled, and nothing in the
process ever issues `EP_DISABLE`. So the first SET_CONFIGURATION enables every
endpoint, a RESET forgets the handles without disabling anything, and no later
SET_CONFIGURATION can get them back.
-/

namespace X360Gadget.Transport

open X360Gadget.Descriptors X360Gadget.Kernel X360Gadget.Std

variable {K : Type}

/-! ## The loop over the slots -/

section Answers

variable {os : Os K} {enabled : K → UInt8 → Prop}

/-- An iteration enables both endpoints of its slot and no other. -/
theorem enabled_afterSlot_iff (lawful : Lawful os enabled) (k : K) (i : Nat) (address : UInt8) :
    enabled (afterSlot os k i) address ↔
      enabled k address ∨ address = epInAddr i ∨ address = epOutAddr i := by
  have both : enabled (afterEpOut os k i) address ↔
      enabled k address ∨ address = epInAddr i ∨ address = epOutAddr i := by
    rw [afterEpOut, lawful.after_enable, afterEpIn, lawful.after_enable, or_assoc]
    rfl
  unfold afterSlot
  split
  · rw [lawful.after_other _ _ _ (by simp) (by simp), both]
  · exact both

/-- When the loop reaches slot `i` the endpoints of the slots below are enabled. -/
theorem enabled_atSlot_iff (lawful : Lawful os enabled) (k : K) (i : Nat) (address : UInt8) :
    enabled (atSlot os k i) address ↔
      enabled k address ∨ ∃ j < i, address = epInAddr j ∨ address = epOutAddr j := by
  induction i with
  | zero => simp [atSlot]
  | succ i ih =>
      rw [atSlot, enabled_afterSlot_iff lawful, ih, or_assoc]
      refine or_congr_right ?_
      constructor
      · rintro (⟨j, below, same⟩ | same)
        · exact ⟨j, Nat.lt_succ_of_lt below, same⟩
        · exact ⟨i, Nat.lt_succ_self i, same⟩
      · rintro ⟨j, below, same⟩
        rcases Nat.lt_succ_iff_lt_or_eq.mp below with earlier | rfl
        · exact .inl ⟨j, earlier, same⟩
        · exact .inr same

/-- The IN endpoint gets a handle exactly when it was disabled at the start. -/
theorem epInAnswer_isSome_iff (lawful : Lawful os enabled) {k : K} {i : Nat} (bound : i < 4) :
    (epInAnswer os k i).isSome ↔ ¬enabled k (epInAddr i) := by
  rw [epInAnswer, lawful.enable_iff]
  refine not_congr ((enabled_atSlot_iff lawful k i _).trans (or_iff_left ?_))
  rintro ⟨j, below, same | same⟩
  · have equal := (epInAddr_inj (by omega) (by omega)).mp same
    omega
  · exact epInAddr_ne_epOutAddr (by omega) (by omega) same

/-- The OUT endpoint gets a handle exactly when it was disabled at the start. -/
theorem epOutAnswer_isSome_iff (lawful : Lawful os enabled) {k : K} {i : Nat} (bound : i < 4) :
    (epOutAnswer os k i).isSome ↔ ¬enabled k (epOutAddr i) := by
  rw [epOutAnswer, epOutReply, lawful.enable_iff]
  refine not_congr ((lawful.after_enable _ _ _).trans ?_)
  rw [enabled_atSlot_iff lawful, or_assoc]
  refine or_iff_left ?_
  rintro (⟨j, below, same | same⟩ | same)
  · exact epInAddr_ne_epOutAddr (by omega) (by omega) same.symm
  · have equal := (epOutAddr_inj (by omega) (by omega)).mp same
    omega
  · exact epInAddr_ne_epOutAddr (by omega) (by omega) (Eq.symm same)

/-- After a SET_CONFIGURATION every endpoint of the device is enabled. -/
theorem enabled_configured_iff (lawful : Lawful os enabled) {n : Nat} {w : Ep0World K}
    (address : UInt8) : enabled (configured os n w).kernel address ↔
      enabled w.kernel address ∨ ∃ j < n, address = epInAddr j ∨ address = epOutAddr j := by
  have kernel : enabled (configured os n w).kernel address ↔
      enabled (configureSlots os n w).kernel address := by
    simp only [configured, finishConfiguration, Ep0World.issue_kernel]
    rw [lawful.after_other _ _ _ (by simp) (by simp), lawful.after_other _ _ _ (by simp) (by simp),
      lawful.after_other _ _ _ (by simp) (by simp)]
    rfl
  rw [kernel, configureSlots_kernel, enabled_atSlot_iff lawful]

end Answers

/-! ## What was handled so far -/

/-- The device was configured before. -/
def Enumerated (events : List UsbRawControlEvent) : Prop :=
  ∃ set ∈ events, Configures set

/-- The device was configured and then reset or unplugged. -/
def Detached (events : List UsbRawControlEvent) : Prop :=
  ∃ set detach, Configures set ∧ IsDetach detach ∧ List.Sublist [set, detach] events

section Events

variable {events : List UsbRawControlEvent} {event : UsbRawControlEvent}

/-- One more event enumerates where it configures. -/
theorem enumerated_concat :
    Enumerated (events ++ [event]) ↔ Enumerated events ∨ Configures event := by
  simp [Enumerated, or_and_right, exists_or]

/-- One more event detaches where it is a detach after an enumeration. -/
theorem detached_concat :
    Detached (events ++ [event]) ↔ Detached events ∨ Enumerated events ∧ IsDetach event := by
  constructor
  · rintro ⟨set, detach, configures, detaches, sublist⟩
    obtain ⟨earlier, last, split, inEvents, inLast⟩ := List.sublist_append_iff.mp sublist
    match earlier, split with
    | [], split =>
        rw [← split.trans (List.nil_append last)] at inLast
        have short := inLast.length_le
        simp at short
    | [first], split =>
        obtain ⟨rfl, rfl⟩ : first = set ∧ last = [detach] := by simpa [eq_comm] using split
        obtain rfl : detach = event := by simpa using inLast
        exact .inr ⟨⟨first, List.singleton_sublist.mp inEvents, configures⟩, detaches⟩
    | first :: second :: rest, split =>
        obtain ⟨rfl, rfl, none⟩ : first = set ∧ second = detach ∧ rest ++ last = [] := by
          simpa [eq_comm] using split
        obtain ⟨rfl, -⟩ := List.append_eq_nil_iff.mp none
        exact .inl ⟨first, second, configures, detaches, inEvents⟩
  · rintro (⟨set, detach, configures, detaches, sublist⟩ | ⟨⟨set, member, configures⟩, detaches⟩)
    · exact ⟨set, detach, configures, detaches, sublist.trans (List.sublist_append_left _ _)⟩
    · exact ⟨set, event, configures, detaches,
        (List.singleton_sublist.mpr member).append (List.Sublist.refl [event])⟩

/-- A SET_CONFIGURATION enumerates and detaches nothing. -/
theorem enumerated_of_configures (configures : Configures event) :
    Enumerated (events ++ [event]) := enumerated_concat.mpr (.inr configures)

/-- A configuration detaches nothing. -/
theorem detached_of_configures (configures : Configures event) :
    Detached (events ++ [event]) ↔ Detached events := by
  have attached : ¬IsDetach event := fun detach => not_configures_of_isDetach detach configures
  rw [detached_concat, or_iff_left fun both => attached both.2]

/-- Configuring logs its own event and no other. -/
theorem handledEvents_configured {os : Os K} {n : Nat} {w : Ep0World K} :
    handledEvents (markHandled event (configured os n w)).log =
      handledEvents w.log ++ [event] := by
  rw [handledEvents_markHandled, configured_handledEvents]

/-- What was detached had been enumerated. -/
theorem Detached.enumerated (detached : Detached events) : Enumerated events := by
  obtain ⟨set, detach, configures, -, sublist⟩ := detached
  exact ⟨set, sublist.subset List.mem_cons_self, configures⟩

end Events

/-! ## The table against the kernel -/

/-- The kernel keeps every endpoint enabled once the device was enumerated; the
table holds the handles only until the first detach. -/
structure Tracks (enabled : K → UInt8 → Prop) (n : Nat) (w : Ep0World K) : Prop where
  enabledIn : ∀ i, i < n → (enabled w.kernel (epInAddr i) ↔ Enumerated (handledEvents w.log))
  enabledOut : ∀ i, i < n → (enabled w.kernel (epOutAddr i) ↔ Enumerated (handledEvents w.log))
  activeIn : ∀ i (_ : i < 4), i < n → (w.shared.epIn[i].isSome ↔
    Enumerated (handledEvents w.log) ∧ ¬Detached (handledEvents w.log))
  activeOut : ∀ i (_ : i < 4), i < n → (w.shared.epOut[i].isSome ↔
    Enumerated (handledEvents w.log) ∧ ¬Detached (handledEvents w.log))

section Tracking

variable {os : Os K} {enabled : K → UInt8 → Prop} {n : Nat} {w : Ep0World K}

/-- A call that neither enables nor disables changes nothing that is tracked. -/
theorem Tracks.issue (holds : Tracks enabled n w) (lawful : Lawful os enabled) {call : Syscall}
    (notEnable : ∀ desc, call ≠ .epEnable desc) (notDisable : ∀ ep, call ≠ .epDisable ep) :
    Tracks enabled n (w.issue os call) := by
  have kernel := fun address => lawful.after_other w.kernel call address notEnable notDisable
  have events : handledEvents (w.issue os call).log = handledEvents w.log := by
    simp
  refine ⟨?_, ?_, ?_, ?_⟩
  · intro i slot
    rw [events, Ep0World.issue_kernel, kernel]
    exact holds.enabledIn i slot
  · intro i slot
    rw [events, Ep0World.issue_kernel, kernel]
    exact holds.enabledOut i slot
  · intro i bound slot
    rw [events]
    exact holds.activeIn i bound slot
  · intro i bound slot
    rw [events]
    exact holds.activeOut i bound slot

/-- Only what is tracked matters. -/
theorem Tracks.of_eq {w' : Ep0World K} (holds : Tracks enabled n w) (kernel : w'.kernel = w.kernel)
    (shared : w'.shared = w.shared)
    (enumerated : Enumerated (handledEvents w'.log) ↔ Enumerated (handledEvents w.log))
    (detached : Detached (handledEvents w'.log) ↔ Detached (handledEvents w.log)) :
    Tracks enabled n w' := by
  refine ⟨?_, ?_, ?_, ?_⟩
  · simpa only [kernel, enumerated] using holds.enabledIn
  · simpa only [kernel, enumerated] using holds.enabledOut
  · simpa only [shared, enumerated, detached] using holds.activeIn
  · simpa only [shared, enumerated, detached] using holds.activeOut

/-- An event that neither detaches nor configures changes nothing that is tracked. -/
theorem Tracks.markHandled (holds : Tracks enabled n w) {event : UsbRawControlEvent}
    (attached : ¬IsDetach event) (other : ¬Configures event) :
    Tracks enabled n (markHandled event w) := by
  refine holds.of_eq rfl rfl ?_ ?_
  · rw [handledEvents_markHandled, enumerated_concat, or_iff_left other]
  · rw [handledEvents_markHandled, detached_concat, or_iff_left fun both => attached both.2]

/-- A RESET forgets the handles and disables nothing. -/
theorem Tracks.detached (holds : Tracks enabled n w) {event : UsbRawControlEvent}
    (detach : IsDetach event) :
    Tracks enabled n (Transport.markHandled event (clearEndpoints w)) := by
  have events : handledEvents (Transport.markHandled event (clearEndpoints w)).log =
      handledEvents w.log ++ [event] := handledEvents_markHandled
  have enumerated : Enumerated (handledEvents w.log ++ [event]) ↔
      Enumerated (handledEvents w.log) := by
    rw [enumerated_concat, or_iff_left (not_configures_of_isDetach detach)]
  have empty : ¬(Enumerated (handledEvents w.log ++ [event]) ∧
      ¬Detached (handledEvents w.log ++ [event])) := by
    rw [enumerated, detached_concat]
    rintro ⟨seen, notDetached⟩
    exact notDetached (.inr ⟨seen, detach⟩)
  refine ⟨?_, ?_, ?_, ?_⟩
  · intro i slot
    rw [events, enumerated]
    exact holds.enabledIn i slot
  · intro i slot
    rw [events, enumerated]
    exact holds.enabledOut i slot
  · intro i bound slot
    rw [events]
    refine iff_of_false ?_ empty
    simp [Transport.markHandled, clearEndpoints, SharedState.clearEndpoints]
  · intro i bound slot
    rw [events]
    refine iff_of_false ?_ empty
    simp [Transport.markHandled, clearEndpoints, SharedState.clearEndpoints]

/-- The first SET_CONFIGURATION gets every handle; a later one gets none and
keeps what is left. -/
theorem Tracks.configured (holds : Tracks enabled n w) (lawful : Lawful os enabled)
    {event : UsbRawControlEvent} (configures : Configures event) :
    Tracks enabled n (Transport.markHandled event (configured os n w)) := by
  have events : handledEvents (Transport.markHandled event (Transport.configured os n w)).log =
      handledEvents w.log ++ [event] := handledEvents_configured
  have enumerated : Enumerated (handledEvents w.log ++ [event]) :=
    enumerated_of_configures configures
  have detached : Detached (handledEvents w.log ++ [event]) ↔ Detached (handledEvents w.log) :=
    detached_of_configures configures
  -- A cell is filled now exactly when it was filled before or never enabled.
  have filled : ∀ (answer held : Option Int32) (address : UInt8),
      (answer.isSome ↔ ¬enabled w.kernel address) →
      (enabled w.kernel address ↔ Enumerated (handledEvents w.log)) →
      (held.isSome ↔ Enumerated (handledEvents w.log) ∧ ¬Detached (handledEvents w.log)) →
      ((answer.or held).isSome ↔ ¬Detached (handledEvents w.log)) := by
    intro answer held address answered enabledIff heldIff
    have either : (answer.or held).isSome ↔ answer.isSome ∨ held.isSome := by
      cases answer <;> simp
    rw [either, answered, enabledIff, heldIff]
    constructor
    · rintro (notSeen | ⟨-, attached⟩) detached
      · exact notSeen detached.enumerated
      · exact attached detached
    · intro attached
      by_cases seen : Enumerated (handledEvents w.log)
      · exact .inr ⟨seen, attached⟩
      · exact .inl seen
  refine ⟨?_, ?_, ?_, ?_⟩
  · intro i slot
    rw [events]
    exact iff_of_true ((enabled_configured_iff lawful _).mpr (.inr ⟨i, slot, .inl rfl⟩)) enumerated
  · intro i slot
    rw [events]
    exact iff_of_true ((enabled_configured_iff lawful _).mpr (.inr ⟨i, slot, .inr rfl⟩)) enumerated
  · intro i bound slot
    rw [events, detached, and_iff_right enumerated]
    change ((Transport.configured os n w).shared.epIn[i]).isSome ↔ _
    rw [configured_epIn i bound, if_pos slot]
    exact filled _ _ _ (epInAnswer_isSome_iff lawful bound) (holds.enabledIn i slot)
      (holds.activeIn i bound slot)
  · intro i bound slot
    rw [events, detached, and_iff_right enumerated]
    change ((Transport.configured os n w).shared.epOut[i]).isSome ↔ _
    rw [configured_epOut i bound, if_pos slot]
    exact filled _ _ _ (epOutAnswer_isSome_iff lawful bound) (holds.enabledOut i slot)
      (holds.activeOut i bound slot)

/-- Every step of any thread keeps the table tracking the kernel. -/
theorem Tracks.step (holds : Tracks enabled n w) (lawful : Lawful os enabled)
    {action : GadgetAction} {w' : Ep0World K} (stepped : WorldStep os n w action w') :
    Tracks enabled n w' := by
  cases stepped with
  | handled event w' outcome =>
      cases outcome with
      | ignored attached other => exact holds.markHandled attached other
      | detached detach sound => exact holds.detached detach
      | configured configures sound => exact holds.configured lawful configures
      | answered attached other call reply =>
          refine (holds.issue lawful ?_ ?_).markHandled attached other
          · rintro desc rfl
            cases reply
          · rintro ep rfl
            cases reply
  | panicked event blocked => exact holds
  | readerEnded reader read => exact holds.of_eq rfl rfl Iff.rfl Iff.rfl
  | poisoned slot report => exact holds.of_eq rfl rfl Iff.rfl Iff.rfl
  | wrote io => exact holds.issue lawful (by simp) (by simp)
  | unchanged action noEvent => exact holds

/-- Before the first step nothing is enabled. -/
theorem tracks_new {kernel : K} (fresh : ∀ address, ¬enabled kernel address) :
    Tracks enabled n (Ep0World.new kernel) := by
  have notEnumerated : ¬Enumerated (handledEvents (Ep0World.new kernel).log) := by
    rintro ⟨set, member, -⟩
    cases member
  refine ⟨?_, ?_, ?_, ?_⟩
  · exact fun i slot => iff_of_false (fresh _) notEnumerated
  · exact fun i slot => iff_of_false (fresh _) notEnumerated
  · intro i bound slot
    refine iff_of_false ?_ fun both => notEnumerated both.1
    simp [Ep0World.new, SharedState.new]
  · intro i bound slot
    refine iff_of_false ?_ fun both => notEnumerated both.1
    simp [Ep0World.new, SharedState.new]

end Tracking

/-! ## Runs -/

/-- If the last thing logged is a handled SET_CONFIGURATION of configuration 1,
every endpoint is active. -/
def Restored (n : Nat) (g : Gadget K) : Prop :=
  ∀ event, g.world.log.getLast? = some (.handled event) → Configures event →
    event.ctrl.wValue = 1 → AllActive n g.world.shared

/-- The step handles no SET_CONFIGURATION of configuration 1 on a device that was
configured and then reset or unplugged. -/
def NotReconfigured (g : Gadget K) (action : GadgetAction) : Prop :=
  ∀ event, action = .fetch (.ok event) → Configures event → event.ctrl.wValue = 1 →
    g.world.poisoned = false → ¬Detached (handledEvents g.world.log)

section Runs

variable {os : Os K} {enabled : K → UInt8 → Prop}

/-- After a SET_CONFIGURATION the endpoints are active unless the device was
configured and then detached. -/
theorem Tracks.allActive_iff {n : Nat} {w : Ep0World K} (holds : Tracks enabled n w)
    (nonempty : 1 ≤ n) (enumerated : Enumerated (handledEvents w.log)) :
    AllActive n w.shared ↔ ¬Detached (handledEvents w.log) := by
  constructor
  · intro active
    exact ((holds.activeIn 0 (by omega) nonempty).mp (active 0 (by omega) nonempty).1).2
  · intro attached i bound slot
    exact ⟨(holds.activeIn i bound slot).mpr ⟨enumerated, attached⟩,
      (holds.activeOut i bound slot).mpr ⟨enumerated, attached⟩⟩

/-- One step keeps the promise exactly under its condition. -/
theorem restored_step {n : Nat} {g next : Gadget K} {action : GadgetAction}
    (lawful : Lawful os enabled) (nonempty : 1 ≤ n) (tracks : Tracks enabled n g.world)
    (holds : Restored n g) (stepped : WorldStep os n g.world action next.world) :
    Restored n next ↔ NotReconfigured g action := by
  have seen := stepped.tableStep
  generalize after : next.world = w at seen
  cases seen with
  | detached event detach sound =>
      have other := not_configures_of_isDetach detach
      refine iff_of_true ?_ ?_
      · intro last isLast configures
        rw [after, markHandled, List.getLast?_concat] at isLast
        cases isLast
        exact absurd configures other
      · rintro _ ⟨⟩ configures
        exact absurd configures other
  | configured event configures sound =>
      have enumerated : Enumerated
          (handledEvents (markHandled event (configured os n g.world)).log) := by
        rw [handledEvents_configured]
        exact enumerated_of_configures configures
      have active := (tracks.configured lawful configures).allActive_iff nonempty enumerated
      rw [handledEvents_configured, detached_of_configures configures] at active
      constructor
      · rintro restored _ ⟨⟩ _ first _
        apply active.mp
        rw [← after]
        apply restored event _ configures first
        rw [after]
        exact List.getLast?_concat
      · intro allowed last isLast _ first
        rw [after, markHandled, List.getLast?_concat] at isLast
        cases isLast
        rw [after]
        exact active.mpr (allowed event rfl configures first sound)
  | uneventful action w kept =>
      refine iff_of_true ?_ ?_
      · intro event isLast configures first
        rw [after] at isLast ⊢
        rcases kept.log with same | noSet
        · rw [same] at isLast
          rw [kept.shared]
          exact holds event isLast configures first
        · exact absurd configures (noSet event isLast)
      · intro event isEvent configures _ sound
        rw [kept.blocked event isEvent (.inr configures)] at sound
        cases sound

/-- On a lawful kernel, along a run, every SET_CONFIGURATION of configuration 1
leaves all endpoints active exactly when none is handled after a device that was
configured was reset or unplugged. -/
theorem restored_iff {numInterfaces : UInt8} {desc : DescriptorBytes} {kernel : K}
    {actions : List GadgetAction} {g : Gadget K} (nonempty : 1 ≤ numInterfaces.toNat)
    (few : numInterfaces.toNat ≤ 4) (lawful : Lawful os enabled)
    (fresh : ∀ address, ¬enabled kernel address)
    (runs : (gadget os numInterfaces desc).run (.new kernel) actions = some g) :
    (gadget os numInterfaces desc).Always (Restored numInterfaces.toNat) (.new kernel) actions ↔
      (gadget os numInterfaces desc).EachStep NotReconfigured (.new kernel) actions := by
  have initially : Restored numInterfaces.toNat (Gadget.new kernel) := by
    rintro event ⟨⟩
  refine Machine.always_iff_eachStep _ (fun g => Tracks enabled numInterfaces.toNat g.world) _ _
    ?_ ?_ (tracks_new fresh) initially runs
  · intro state action next tracks stepped
    exact tracks.step lawful (gadget_worldStep few stepped)
  · intro state action next tracks holds stepped
    exact restored_step lawful nonempty tracks holds (gadget_worldStep few stepped)

end Runs

/-- The first enumeration. -/
theorem restored_first_enumeration :
    ∃ g, (gadget .exclusive 1 ⟨[], [], [], [], none, none, none⟩).run (.new [])
        [.fetch (.ok (.setConfiguration 1)), .waitReady] = some g ∧
      (gadget .exclusive 1 ⟨[], [], [], [], none, none, none⟩).Always (Restored 1) (.new [])
        [.fetch (.ok (.setConfiguration 1)), .waitReady] := by
  have runs : (gadget .exclusive 1 ⟨[], [], [], [], none, none, none⟩).run (.new [])
      [.fetch (.ok (.setConfiguration 1)), .waitReady] = some _ := rfl
  refine ⟨_, runs, ?_⟩
  refine (restored_iff (by decide) (by decide) lawful_exclusive (by simp) runs).mpr ?_
  refine (Machine.eachStep_cons _ rfl).mpr ⟨?_, (Machine.eachStep_cons _ rfl).mpr
    ⟨?_, Machine.eachStep_nil _⟩⟩
  · rintro event - - - - ⟨set, detach, -, -, sublist⟩
    cases sublist
  · rintro event ⟨⟩

/-- A reset between two configurations leaves the device without endpoints. -/
theorem not_restored_after_reset :
    ∃ g, (gadget .exclusive 1 ⟨[], [], [], [], none, none, none⟩).run (.new [])
        [.fetch (.ok (.setConfiguration 1)), .fetch (.ok .reset),
          .fetch (.ok (.setConfiguration 1))] = some g ∧ ¬Restored 1 g := by
  refine ⟨_, rfl, ?_⟩
  intro restored
  have active := restored (.setConfiguration 1) rfl (by decide) rfl 0 (by decide) (by decide)
  exact absurd active.1 (by decide)

end X360Gadget.Transport
