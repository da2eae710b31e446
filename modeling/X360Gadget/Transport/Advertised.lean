import X360Gadget.Descriptors.Blob
import X360Gadget.Transport.Control

/-!
# Advertised and enabled endpoints

The blob builder and the SET_CONFIGURATION loop compute the endpoints of a slot
separately. What the loop passes to `EP_ENABLE` is the list a host meets in the
blob, cut short only where a fifth slot's handle has no cell to go to.
-/

namespace X360Gadget.Transport

open X360Gadget.Descriptors X360Gadget.Kernel X360Gadget.Std

variable {K : Type}

/-- The descriptors passed to `EP_ENABLE`, in order. -/
def enabledDescriptors (entries : List Interaction) : List UsbEndpointDescriptor :=
  entries.filterMap fun
    | .called (.epEnable desc) _ => some desc
    | _ => none

/-- The part of the packed structure that is the descriptor itself. -/
def descriptorPart (desc : UsbEndpointDescriptor) : List UInt8 := desc.toBytes.take 7

/-- The descriptors of a slot, in the order the loop enables them. -/
def slotEndpoints (i : Nat) : List UsbEndpointDescriptor := [epInDesc i, epOutDesc i]

/-- The log grew by exactly the calls that enable `wanted`, as far as they went. -/
def Enables (wanted : List UsbEndpointDescriptor) (w : Ep0World K)
    (outcome : Outcome (Ep0World K) (Ep0World K)) : Prop :=
  ∃ entries, outcome.finalState.log = w.log ++ entries ∧
    enabledDescriptors entries <+: wanted ∧
      (∀ w', outcome = .ok w' → enabledDescriptors entries = wanted)

/-- The descriptors enabled by a log are those of its parts in order. -/
theorem enabledDescriptors_append (first second : List Interaction) :
    enabledDescriptors (first ++ second) =
      enabledDescriptors first ++ enabledDescriptors second :=
  List.filterMap_append

/-- Enabling in sequence enables the concatenation. -/
theorem Enables.bind {first second : List UsbEndpointDescriptor} {w : Ep0World K}
    {outcome : Outcome (Ep0World K) (Ep0World K)}
    {next : Ep0World K → Outcome (Ep0World K) (Ep0World K)} (enables : Enables first w outcome)
    (continues : ∀ w', outcome = .ok w' → Enables second w' (next w')) :
    Enables (first ++ second) w (outcome >>= next) := by
  obtain ⟨entries, log, cut, whole⟩ := enables
  cases outcome with
  | error panic =>
      refine ⟨entries, log, cut.trans (List.prefix_append _ _), ?_⟩
      rintro w' ⟨⟩
  | ok w' =>
      obtain ⟨more, moreLog, moreCut, moreWhole⟩ := continues w' rfl
      have first := whole w' rfl
      have log : w'.log = w.log ++ entries := log
      refine ⟨entries ++ more, ?_, ?_, ?_⟩
      · exact moreLog.trans (by rw [log, List.append_assoc])
      · rw [enabledDescriptors_append, first]
        exact (List.prefix_append_right_inj _).mpr moreCut
      · intro last returned
        rw [enabledDescriptors_append, first, moreWhole last returned]

/-- The IN endpoint of a slot. -/
theorem enables_enableEpIn (os : Os K) (i : Nat) (w : Ep0World K) :
    Enables [epInDesc i] w (enableEpIn os i w) := by
  refine ⟨[.called (.epEnable (epInDesc i)) (w.reply os (.epEnable (epInDesc i)))], ?_,
    List.prefix_rfl, fun _ _ => rfl⟩
  unfold enableEpIn
  cases answer : (w.reply os (.epEnable (epInDesc i))).result with
  | error errno => simp [answer]
  | ok h => by_cases bound : i < 4 <;> simp [answer, bound]

/-- The OUT endpoint of a slot. -/
theorem enables_enableEpOut (os : Os K) (i : Nat) (w : Ep0World K) :
    Enables [epOutDesc i] w (enableEpOut os i w) := by
  have single : ∀ outcome : Outcome (Ep0World K) (Ep0World K), outcome.finalState.log = w.log ++
      [.called (.epEnable (epOutDesc i)) (w.reply os (.epEnable (epOutDesc i)))] →
      Enables [epOutDesc i] w outcome :=
    fun _ log => ⟨_, log, List.prefix_rfl, fun _ _ => rfl⟩
  unfold enableEpOut
  cases answer : (w.reply os (.epEnable (epOutDesc i))).result with
  | error errno => exact single _ (by simp [answer])
  | ok h =>
      by_cases bound : i < 4
      · simp only [answer, if_pos bound]
        refine ⟨[.called (.epEnable (epOutDesc i)) (w.reply os (.epEnable (epOutDesc i))),
          .called (.spawnEpOut (UInt8.ofNat i) h)
            (((w.issue os (.epEnable (epOutDesc i))).setEpOut i h).reply os
              (.spawnEpOut (UInt8.ofNat i) h))], ?_, List.prefix_rfl, fun _ _ => rfl⟩
        rw [Outcome.finalState_ok, Ep0World.spawnEpOut_log, Ep0World.setEpOut_log,
          Ep0World.issue_log, List.append_assoc]
        rfl
      · exact single _ (by simp [answer, bound])

/-- The loop over the slots. -/
theorem enables_enableSlots (os : Os K) (slots : List Nat) (w : Ep0World K) :
    Enables (slots.flatMap slotEndpoints) w (enableSlots os slots w) := by
  induction slots generalizing w with
  | nil => exact ⟨[], by simp [enableSlots], List.prefix_rfl, fun _ _ => rfl⟩
  | cons i rest ih =>
      rw [List.flatMap_cons, slotEndpoints, enableSlots]
      exact (enables_enableEpIn os i w).bind fun w' _ =>
        (enables_enableEpOut os i w').bind fun w'' _ => ih w''

/-- The whole request. -/
theorem enables_setConfiguration (os : Os K) (numInterfaces : UInt8) (w : Ep0World K) :
    Enables ((List.range numInterfaces.toNat).flatMap slotEndpoints) w
      (setConfiguration os numInterfaces w) := by
  unfold setConfiguration
  split
  · refine ⟨[], by simp, List.nil_prefix, ?_⟩
    rintro w' ⟨⟩
  · obtain ⟨entries, log, cut, whole⟩ :=
      enables_enableSlots os (List.range numInterfaces.toNat) w
    split
    · next w' returned =>
        rw [returned] at log whole
        have enabled := whole w' rfl
        have log : w'.log = w.log ++ entries := log
        obtain ⟨draw, configure, acknowledge, finished⟩ := finishConfiguration_log os w'
        have total : enabledDescriptors (entries ++ [.called (.vbusDraw 0xFA) draw,
            .called .configure configure,
            .called (.ep0Read (.ofLength 0 .zeroed)) acknowledge]) =
              (List.range numInterfaces.toNat).flatMap slotEndpoints := by
          rw [enabledDescriptors_append, enabled]
          exact List.append_nil _
        refine ⟨_, finished.trans (by rw [log, List.append_assoc]), ?_, fun _ _ => total⟩
        simp only [total, List.prefix_rfl]
    · next why w' panicked =>
        rw [panicked] at log
        refine ⟨entries, log, cut, ?_⟩
        rintro w'' ⟨⟩

/-! ## The two lists -/

/-- Slot by slot the loop enables what the blob announces. -/
theorem slotEndpoints_eq_endpoints (n : Nat) :
    ((List.range n).flatMap slotEndpoints).map descriptorPart =
      (slotGroups n).flatMap SlotGroup.endpoints := by
  induction n with
  | zero => rfl
  | succ n ih =>
      rw [List.range_succ, List.flatMap_append, List.map_append, ih, flatMap_slotGroups_succ]
      rfl

/-- A walk of the blob meets a header and one group for each slot; the endpoint
descriptors it meets are those SET_CONFIGURATION passes to `EP_ENABLE`, all of
them whenever the request returns, and with four slots it does. -/
theorem advertised_eq_enabled (config : ConfigDescriptorSet)
    (fits : config.numInterfaces.toNat ≤ 127) (os : Os K) (ctrl : UsbCtrlrequest)
    (set : IsSetConfiguration ctrl) (desc : DescriptorBytes) (w : Ep0World K) :
    ∃ header groups,
      Advertises config.numInterfaces.toNat (buildDescriptorBytes config).config header groups ∧
      ∃ entries,
        (handleControl os config.numInterfaces ctrl desc w).finalState.log = w.log ++ entries ∧
        (enabledDescriptors entries).map descriptorPart <+:
          (header :: groups.flatMap SlotGroup.records).filter isEndpoint ∧
        (∀ w', handleControl os config.numInterfaces ctrl desc w = .ok w' →
          (enabledDescriptors entries).map descriptorPart =
            (header :: groups.flatMap SlotGroup.records).filter isEndpoint) ∧
        (config.numInterfaces.toNat ≤ 4 → w.poisoned = false →
          ∃ w', handleControl os config.numInterfaces ctrl desc w = .ok w') := by
  refine ⟨_, _, configBlob_advertises fits, ?_⟩
  obtain ⟨entries, log, cut, whole⟩ := enables_setConfiguration os config.numInterfaces w
  rw [handleControl_of_setConfiguration set, endpoints_met, ← slotEndpoints_eq_endpoints]
  refine ⟨entries, log, cut.map _, ?_, ?_⟩
  · intro w' returned
    rw [whole w' returned]
  · intro few sound
    exact ⟨_, setConfiguration_eq few sound⟩

/-- Four slots and a kernel that enables everything. -/
theorem advertised_eq_enabled_four :
    ∃ config, ConfigDescriptorSet.new 4 = .ok config ∧ ∃ header groups,
      Advertises 4 (buildDescriptorBytes config).config header groups ∧
      (enabledDescriptors (handleControl .counting 4 (UsbRawControlEvent.setConfiguration 1).ctrl
        (buildDescriptorBytes config) (.new 0)).finalState.log).map descriptorPart =
          (header :: groups.flatMap SlotGroup.records).filter isEndpoint := by
  refine ⟨_, rfl, ?_⟩
  obtain ⟨header, groups, advertises, entries, log, -, whole, -⟩ := advertised_eq_enabled
    { identity := ReceiverIdentity.default, numInterfaces := 4, strings := .new } (by decide)
    .counting (UsbRawControlEvent.setConfiguration 1).ctrl (by decide) _ (.new 0)
  refine ⟨header, groups, advertises, ?_⟩
  rw [← whole _ rfl]
  exact congrArg (fun entries => (enabledDescriptors entries).map descriptorPart) log

/-- With five slots and a kernel that enables everything, the fifth handle has no
cell: nine of ten descriptors reach `EP_ENABLE`. -/
theorem enabled_cut_short_five :
    ∃ header groups, Advertises 5 (configBlob 5) header groups ∧
      (enabledDescriptors (handleControl .counting 5 (UsbRawControlEvent.setConfiguration 1).ctrl
        ⟨[], [], [], [], none, none, none⟩ (.new 0)).finalState.log).map descriptorPart ≠
          (header :: groups.flatMap SlotGroup.records).filter isEndpoint := by
  refine ⟨_, _, configBlob_advertises (by decide), ?_⟩
  rw [endpoints_met]
  intro same
  have lengths := congrArg List.length same
  rw [length_endpoints] at lengths
  revert lengths
  decide

end X360Gadget.Transport
