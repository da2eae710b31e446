import X360Gadget.Transport.Configured
import X360Gadget.Transport.ControlBounds

/-!
# Which call answers a control request

The kernel expects the data of a request in the direction its setup packet
announces, and only a call in that direction completes it. The handler chooses
its call by request type and number, so the two agree exactly under
`DirectionAgrees`.
-/

namespace X360Gadget.Transport

open X360Gadget.Descriptors X360Gadget.Kernel X360Gadget.Std
open ConfigDescriptorSet

variable {K : Type}

/-! ## The kernel's side -/

/-- What the kernel waits for on endpoint zero. -/
inductive Pending where
  | idle
  | dataIn
  | dataOut
deriving DecidableEq, Repr

/-- A control event leaves one request pending. -/
def Pending.ofRequest (ctrl : UsbCtrlrequest) : Pending :=
  if ctrl.bRequestType &&& usbDirIn ≠ 0 ∧ 0 < ctrl.wLength.toNat then .dataIn else .dataOut

/-- A call in the pending direction or a stall completes the request; any other
call leaves it pending. -/
def Pending.serve : Pending → Syscall → Pending
  | .dataIn, .ep0Write _ => .idle
  | .dataOut, .ep0Read _ => .idle
  | _, .ep0Stall => .idle
  | pending, _ => pending

/-- The calls among log entries, in order. -/
def calls (entries : List Interaction) : List Syscall :=
  entries.filterMap fun
    | .called call _ => some call
    | .handled _ => none

/-- Handling the request issues exactly one reply, in the pending direction, and
leaves nothing pending. -/
def AnswersOnce (os : Os K) (numInterfaces : UInt8) (ctrl : UsbCtrlrequest)
    (desc : DescriptorBytes) (w : Ep0World K) : Prop :=
  ∃ w' call, handleControl os numInterfaces ctrl desc w = .ok w' ∧
    (calls (newEntries w w')).filter isEp0Reply = [call] ∧
    (Pending.ofRequest ctrl).serve call = .idle ∧
    (calls (newEntries w w')).foldl Pending.serve (Pending.ofRequest ctrl) = .idle

/-! ## When the directions agree -/

/-- `wValue` names a blob that every built configuration serves. -/
def NamesDescriptor (value : UInt16) : Prop :=
  (value >>> 8).toUInt8 = usbDtDevice ∨ (value >>> 8).toUInt8 = usbDtDeviceQualifier ∨
    (value >>> 8).toUInt8 = usbDtConfig ∨
      ((value >>> 8).toUInt8 = usbDtString ∧ (value &&& 0xFF).toUInt8 ≤ 3)

instance (value : UInt16) : Decidable (NamesDescriptor value) :=
  inferInstanceAs (Decidable (_ ∨ _))

/-- The data stage the handler assumes is the one the setup packet announces. -/
def DirectionAgrees (ctrl : UsbCtrlrequest) : Prop :=
  if ctrl.bRequestType &&& usbTypeMask = usbTypeVendor then
    ctrl.bRequestType &&& usbDirIn ≠ 0 → 0 < ctrl.wLength.toNat
  else if ctrl.bRequestType &&& usbTypeMask ≠ usbTypeStandard then
    True
  else if ctrl.bRequest = usbReqGetDescriptor then
    NamesDescriptor ctrl.wValue → ctrl.bRequestType &&& usbDirIn ≠ 0 ∧ 0 < ctrl.wLength.toNat
  else if ctrl.bRequest = usbReqSetConfiguration then
    ctrl.bRequestType &&& usbDirIn ≠ 0 → ctrl.wLength.toNat = 0
  else if ctrl.bRequest = usbReqGetInterface then
    ctrl.bRequestType &&& usbDirIn ≠ 0 ∧ 0 < ctrl.wLength.toNat
  else
    True

instance (ctrl : UsbCtrlrequest) : Decidable (DirectionAgrees ctrl) := by
  unfold DirectionAgrees
  infer_instance

@[simp] theorem serve_stall (pending : Pending) : pending.serve .ep0Stall = .idle := by
  cases pending <;> rfl

/-- A write completes exactly the requests with an IN data stage. -/
theorem serve_write_iff {ctrl : UsbCtrlrequest} {io : UsbRawControlEpIo} :
    (Pending.ofRequest ctrl).serve (.ep0Write io) = .idle ↔
      ctrl.bRequestType &&& usbDirIn ≠ 0 ∧ 0 < ctrl.wLength.toNat := by
  unfold Pending.ofRequest
  split <;> simp_all [Pending.serve]

/-- A read completes exactly the requests without an IN data stage. -/
theorem serve_read_iff {ctrl : UsbCtrlrequest} {io : UsbRawControlEpIo} :
    (Pending.ofRequest ctrl).serve (.ep0Read io) = .idle ↔
      (ctrl.bRequestType &&& usbDirIn ≠ 0 → ctrl.wLength.toNat = 0) := by
  unfold Pending.ofRequest
  split
  · next dataIn => simp [Pending.serve, dataIn.1, Nat.ne_of_gt dataIn.2]
  · next dataOut =>
      simp only [Pending.serve, true_iff]
      intro isIn
      by_contra nonzero
      exact dataOut ⟨isIn, Nat.pos_of_ne_zero nonzero⟩

/-- Calls that are no ep0 reply do not complete anything. -/
theorem foldl_serve_filter (pending : Pending) (issued : List Syscall) :
    issued.foldl Pending.serve pending =
      (issued.filter isEp0Reply).foldl Pending.serve pending := by
  induction issued generalizing pending with
  | nil => rfl
  | cons call rest ih =>
      cases reply : isEp0Reply call with
      | true => simp [reply, ih]
      | false =>
          have unchanged : pending.serve call = pending := by
            cases call <;> cases pending <;> first | rfl | cases reply
          simp [reply, ih, unchanged]

/-! ## The handler's side -/

/-- A completed SET_CONFIGURATION makes one reply, an EP0_READ. -/
theorem newEntries_configured (os : Os K) (n : Nat) (w : Ep0World K) :
    ∃ io, (calls (newEntries w (configured os n w))).filter isEp0Reply = [.ep0Read io] := by
  obtain ⟨entries, draw, configure, acknowledge, log, slotCalls⟩ := configured_log os n w
  have quiet : (calls entries).filter isEp0Reply = [] := by
    refine List.filter_eq_nil_iff.mpr fun call member => ?_
    obtain ⟨entry, found, isCall⟩ := List.mem_filterMap.mp member
    have slotCall := slotCalls entry found
    cases entry with
    | handled event => cases isCall
    | called call reply =>
        cases isCall
        cases call <;> first | exact Bool.false_ne_true | cases slotCall
  refine ⟨.ofLength 0 .zeroed, ?_⟩
  rw [newEntries_of_log log, calls, List.filterMap_append, ← calls, List.filter_append,
    quiet]
  rfl

/-- The answering call alone decides whether a request is left pending. -/
theorem answersOnce_of_returned {os : Os K} {numInterfaces : UInt8} {ctrl : UsbCtrlrequest}
    {desc : DescriptorBytes} {w w' : Ep0World K} {call : Syscall}
    (returned : handleControl os numInterfaces ctrl desc w = .ok w')
    (single : (calls (newEntries w w')).filter isEp0Reply = [call]) :
    AnswersOnce os numInterfaces ctrl desc w ↔ (Pending.ofRequest ctrl).serve call = .idle := by
  constructor
  · rintro ⟨other, answer, returned', single', served, -⟩
    rw [returned, Except.ok.injEq] at returned'
    rw [← returned', single, List.cons.injEq] at single'
    rw [single'.1]
    exact served
  · intro served
    refine ⟨w', call, returned, single, served, ?_⟩
    rw [foldl_serve_filter, single]
    exact served

/-- A built configuration serves exactly the named blobs. -/
theorem descriptorData_isSome_iff {count : UInt8} {serials : List String}
    {config : ConfigDescriptorSet} (built : Built count serials config) {value : UInt16} :
    (descriptorData (buildDescriptorBytes config) value).isSome ↔ NamesDescriptor value := by
  have wellFormed := built.wellFormed
  have strings : ∀ index : UInt8,
      ((buildDescriptorBytes config).stringData index).isSome ↔ index ≤ 3 := by
    intro index
    rw [UInt8.le_iff_toNat_le]
    unfold DescriptorBytes.stringData
    split <;> simp_all [buildDescriptorBytes, wellFormed.manufacturerString,
      wellFormed.productString, wellFormed.serialString]
    next zero one two three => change 3 < index.toNat; omega
  simp only [descriptorData, NamesDescriptor]
  by_cases isDevice : (value >>> 8).toUInt8 = usbDtDevice
  · simp [isDevice]
  rw [if_neg isDevice, or_iff_right isDevice]
  by_cases isQualifier : (value >>> 8).toUInt8 = usbDtDeviceQualifier
  · simp [isQualifier]
  rw [if_neg isQualifier, or_iff_right isQualifier]
  by_cases isConfig : (value >>> 8).toUInt8 = usbDtConfig
  · simp [isConfig]
  rw [if_neg isConfig, or_iff_right isConfig]
  by_cases isString : (value >>> 8).toUInt8 = usbDtString
  · rw [if_pos isString, and_iff_right isString]
    exact strings _
  · simp [isString]

/-- The one reply of a request other than SET_CONFIGURATION completes it exactly
when the directions agree. -/
theorem serve_controlReply_iff {count : UInt8} {serials : List String}
    {config : ConfigDescriptorSet} (built : Built count serials config) {ctrl : UsbCtrlrequest}
    {call : Syscall} (other : ¬IsSetConfiguration ctrl)
    (replied : controlReply (buildDescriptorBytes config) ctrl = some call) :
    (Pending.ofRequest ctrl).serve call = .idle ↔ DirectionAgrees ctrl := by
  unfold controlReply at replied
  unfold DirectionAgrees
  by_cases vendor : ctrl.bRequestType &&& usbTypeMask = usbTypeVendor
  · rw [if_pos vendor] at replied ⊢
    by_cases isIn : ctrl.bRequestType &&& usbDirIn ≠ 0
    · rw [if_pos isIn, Option.some.injEq] at replied
      rw [← replied, serve_write_iff, forall_prop_of_true isIn, and_iff_right isIn]
    · rw [if_neg isIn, Option.some.injEq] at replied
      rw [← replied, serve_read_iff]
      simp [isIn]
  rw [if_neg vendor] at replied ⊢
  by_cases standard : ctrl.bRequestType &&& usbTypeMask = usbTypeStandard
  · rw [if_neg (not_not.mpr standard)] at replied ⊢
    by_cases get : ctrl.bRequest = usbReqGetDescriptor
    · rw [if_pos get] at replied ⊢
      rw [← descriptorData_isSome_iff built]
      cases data : descriptorData (buildDescriptorBytes config) ctrl.wValue with
      | none =>
          rw [data] at replied
          cases replied
          simp
      | some bytes =>
          rw [data] at replied
          obtain ⟨buffer, -, rfl⟩ := Option.map_eq_some_iff.mp replied
          rw [serve_write_iff]
          simp
    have notSet : ctrl.bRequest ≠ usbReqSetConfiguration := fun set => other ⟨standard, set⟩
    rw [if_neg get] at replied ⊢
    rw [if_neg notSet]
    by_cases interface : ctrl.bRequest = usbReqGetInterface
    · rw [if_pos interface, Option.some.injEq] at replied
      rw [← replied, serve_write_iff, if_pos interface]
    · rw [if_neg interface, Option.some.injEq] at replied
      rw [← replied, if_neg interface]
      simp
  · rw [if_pos standard, Option.some.injEq] at replied
    rw [← replied, if_pos standard]
    simp

/-- A SET_CONFIGURATION agrees unless it announces an IN data stage. -/
theorem directionAgrees_of_setConfiguration {ctrl : UsbCtrlrequest}
    (set : IsSetConfiguration ctrl) :
    DirectionAgrees ctrl ↔ (ctrl.bRequestType &&& usbDirIn ≠ 0 → ctrl.wLength.toNat = 0) := by
  have notVendor : usbTypeStandard ≠ usbTypeVendor := by decide
  have notGet : usbReqSetConfiguration ≠ usbReqGetDescriptor := by decide
  rw [DirectionAgrees, set.1, set.2, if_neg notVendor, if_neg (not_not.mpr rfl), if_neg notGet,
    if_pos rfl]

/-- Every request is answered once and completed exactly when the data stage the
handler assumes is the one announced and the mutex, if needed, is sound. -/
theorem answersOnce_iff {count : UInt8} {config : ConfigDescriptorSet}
    (accepted : ConfigDescriptorSet.new count = .ok config) (os : Os K) (ctrl : UsbCtrlrequest)
    (w : Ep0World K) :
    AnswersOnce os config.numInterfaces ctrl (buildDescriptorBytes config) w ↔
      DirectionAgrees ctrl ∧ (IsSetConfiguration ctrl → w.poisoned = false) := by
  have built : Built count [] config := .fresh accepted
  by_cases set : IsSetConfiguration ctrl
  · rw [forall_prop_of_true set, directionAgrees_of_setConfiguration set]
    cases poisoned : w.poisoned with
    | false =>
        obtain ⟨io, single⟩ := newEntries_configured os config.numInterfaces.toNat w
        have returned : handleControl os config.numInterfaces ctrl (buildDescriptorBytes config) w =
            .ok (configured os config.numInterfaces.toNat w) := by
          rw [handleControl_of_setConfiguration set,
            setConfiguration_eq (numInterfaces_le_of_built built) poisoned]
        rw [answersOnce_of_returned returned single, serve_read_iff]
        simp
    | true =>
        simp only [Bool.true_eq_false, and_false, iff_false]
        rintro ⟨w', call, returned, -⟩
        rw [handleControl_of_setConfiguration set] at returned
        simp [setConfiguration, poisoned] at returned
  · rw [forall_prop_of_false set, and_true]
    -- The default serial is far too short for the copy to leave its buffer.
    have replies : controlReply (buildDescriptorBytes config) ctrl ≠ none := by
      rw [ne_eq, controlReply_eq_none_iff_of_built built, built.wellFormed.serial]
      rintro ⟨-, -, long⟩
      exact absurd long (by decide)
    obtain ⟨call, replied⟩ := Option.ne_none_iff_exists'.mp replies
    have returned : handleControl os config.numInterfaces ctrl (buildDescriptorBytes config) w =
        .ok (w.issue os call) := by
      rw [handleControl_of_not_setConfiguration set, replied]
    have single : (calls (newEntries w (w.issue os call))).filter isEp0Reply = [call] := by
      simp [newEntries, calls, controlReply_isEp0Reply replied]
    rw [answersOnce_of_returned returned single, serve_controlReply_iff built set replied]

/-- The host's first request, 64 bytes of the device descriptor, is answered. -/
theorem answersOnce_device_descriptor :
    ∃ config, ConfigDescriptorSet.new 4 = .ok config ∧
      AnswersOnce (⟨fun k _ => (⟨0, 0⟩, k)⟩ : Os Unit) config.numInterfaces
        ⟨0x80, usbReqGetDescriptor, 0x0100, 0, 64⟩ (buildDescriptorBytes config)
        (Ep0World.new ()) :=
  ⟨_, rfl, (answersOnce_iff (show new 4 = .ok _ from rfl) _ _ _).mpr ⟨by decide, fun _ => rfl⟩⟩

/-- A vendor IN request without a data stage gets an EP0_WRITE and stays pending. -/
theorem not_answersOnce_vendor_in_empty :
    ∃ config, ConfigDescriptorSet.new 4 = .ok config ∧
      ¬AnswersOnce (⟨fun k _ => (⟨0, 0⟩, k)⟩ : Os Unit) config.numInterfaces
        ⟨0xC1, 0x01, 0, 0, 0⟩ (buildDescriptorBytes config) (Ep0World.new ()) := by
  refine ⟨_, rfl, ?_⟩
  rintro ⟨w', call, returned, single, served, -⟩
  cases returned
  cases single
  revert served
  decide

end X360Gadget.Transport
