import X360Gadget.Descriptors.Strings
import X360Gadget.Transport.Control
import Mathlib.Data.Nat.Bitwise

/-!
# Array bounds in the control handler

The vendor branch clamps its reply to the transfer buffer; the descriptor branch
relies on its blobs being short. They all are, except the serial string, whose
length the embedder chooses.
-/

namespace X360Gadget.Transport

open X360Gadget.Descriptors X360Gadget.Kernel X360Gadget.Std X360Gadget.Std.Utf16
open ConfigDescriptorSet

variable {K : Type}

/-- The copy is out of range exactly when it exceeds the transfer buffer. -/
theorem descriptorReply_eq_none_iff {bytes : List UInt8} {length : Nat} :
    descriptorReply bytes length = none ↔ 16384 < min bytes.length length := by
  simp only [descriptorReply, IoBuffer.copyPrefix?, Option.map_eq_none_iff]
  split
  · next fits => simp only [reduceCtorEq, false_iff]; omega
  · next tooLong => simp only [true_iff]; omega

/-- A served blob goes out as the prefix the host asked for. -/
theorem descriptorReply_sends {bytes : List UInt8} {length : Nat} {call : Syscall}
    (replied : descriptorReply bytes length = some call) :
    ∃ io, call = .ep0Write io ∧ io.inner.length.toNat = min bytes.length length ∧
      io.data.bytes.take io.inner.length.toNat = bytes.take length := by
  have inRange : min bytes.length length ≤ 16384 := by
    by_contra tooLong
    rw [descriptorReply_eq_none_iff.mpr (Nat.lt_of_not_le tooLong)] at replied
    cases replied
  obtain ⟨data, copied, rfl⟩ := Option.map_eq_some_iff.mp replied
  have sent : (UInt32.ofNat (min bytes.length length)).toNat = min bytes.length length := by
    rw [UInt32.toNat_ofNat']
    omega
  refine ⟨_, rfl, sent, ?_⟩
  change data.bytes.take (UInt32.ofNat (min bytes.length length)).toNat = bytes.take length
  rw [sent, IoBuffer.take_bytes_of_copyPrefix? copied, List.take_eq_take_iff]
  omega

/-- A standard GET_DESCRIPTOR request. -/
def IsGetDescriptor (ctrl : UsbCtrlrequest) : Prop :=
  ctrl.bRequestType &&& usbTypeMask = usbTypeStandard ∧ ctrl.bRequest = usbReqGetDescriptor

instance (ctrl : UsbCtrlrequest) : Decidable (IsGetDescriptor ctrl) :=
  inferInstanceAs (Decidable (_ ∧ _))

/-- A GET_DESCRIPTOR request is answered by the blob it names, or stalled. -/
theorem controlReply_of_getDescriptor {desc : DescriptorBytes} {ctrl : UsbCtrlrequest}
    (get : IsGetDescriptor ctrl) :
    controlReply desc ctrl =
      match descriptorData desc ctrl.wValue with
      | some bytes => descriptorReply bytes ctrl.wLength.toNat
      | none => some .ep0Stall := by
  have notVendor : ctrl.bRequestType &&& usbTypeMask ≠ usbTypeVendor := by
    rw [get.1]
    decide
  cases data : descriptorData desc ctrl.wValue <;>
    simp only [controlReply, if_neg notVendor, if_neg (not_not.mpr get.1), if_pos get.2, data]

/-- Only the descriptor branch can fail to build its reply. -/
theorem controlReply_eq_none_iff {desc : DescriptorBytes} {ctrl : UsbCtrlrequest} :
    controlReply desc ctrl = none ↔ IsGetDescriptor ctrl ∧
      ∃ bytes, descriptorData desc ctrl.wValue = some bytes ∧
        16384 < min bytes.length ctrl.wLength.toNat := by
  by_cases get : IsGetDescriptor ctrl
  · rw [controlReply_of_getDescriptor get]
    cases data : descriptorData desc ctrl.wValue with
    | none => simp
    | some bytes => simp [descriptorReply_eq_none_iff, get]
  · simp only [get, false_and, iff_false]
    unfold controlReply
    split
    · split <;> simp
    · split
      · simp
      · next standard =>
          have notGet : ctrl.bRequest ≠ usbReqGetDescriptor :=
            fun request => get ⟨not_not.mp standard, request⟩
          rw [if_neg notGet]
          split <;> simp

/-- Reading the two bytes of `wValue` back as a word. -/
theorem wValue_eq_iff {value : UInt16} {high low : UInt8} :
    (value >>> 8).toUInt8 = high ∧ (value &&& 0xFF).toUInt8 = low ↔
      value.toNat = 256 * high.toNat + low.toNat := by
  have bound := value.toNat_lt
  have lowBound := low.toNat_lt
  have highByte : (value >>> 8).toUInt8.toNat = value.toNat / 256 := by
    simp [Nat.shiftRight_eq_div_pow]
    omega
  have lowByte : (value &&& 0xFF).toUInt8.toNat = value.toNat % 256 := by
    have mask : value.toNat &&& 255 = value.toNat % 256 :=
      Nat.and_two_pow_sub_one_eq_mod value.toNat 8
    rw [UInt16.toNat_toUInt8, UInt16.toNat_and]
    change (value.toNat &&& 255) % 256 = value.toNat % 256
    omega
  rw [← UInt8.toNat_inj, ← UInt8.toNat_inj, highByte, lowByte]
  omega

/-- Every blob but the serial string is bounded by the caller's `bound`. -/
theorem descriptorData_short {desc : DescriptorBytes} {value : UInt16} {bytes : List UInt8}
    (bound : Nat) (data : descriptorData desc value = some bytes)
    (device : desc.device.length ≤ bound) (qualifier : desc.qualifier.length ≤ bound)
    (config : desc.config.length ≤ bound) (lang : desc.stringLang.length ≤ bound)
    (manufacturer : ∀ d, desc.stringManufacturer = some d → d.length ≤ bound)
    (product : ∀ d, desc.stringProduct = some d → d.length ≤ bound) :
    bytes.length ≤ bound ∨ (value = 0x0303 ∧ desc.stringSerial = some bytes) := by
  simp only [descriptorData] at data
  by_cases isDevice : (value >>> 8).toUInt8 = usbDtDevice
  · rw [if_pos isDevice, Option.some.injEq] at data
    exact .inl (data ▸ device)
  by_cases isQualifier : (value >>> 8).toUInt8 = usbDtDeviceQualifier
  · rw [if_neg isDevice, if_pos isQualifier, Option.some.injEq] at data
    exact .inl (data ▸ qualifier)
  by_cases isConfig : (value >>> 8).toUInt8 = usbDtConfig
  · rw [if_neg isDevice, if_neg isQualifier, if_pos isConfig, Option.some.injEq] at data
    exact .inl (data ▸ config)
  by_cases isString : (value >>> 8).toUInt8 = usbDtString
  · rw [if_neg isDevice, if_neg isQualifier, if_neg isConfig, if_pos isString] at data
    unfold DescriptorBytes.stringData at data
    split at data
    · cases data
      exact .inl lang
    · exact .inl (manufacturer _ data)
    · exact .inl (product _ data)
    · next index =>
        have three : (value &&& 0xFF).toUInt8 = 3 := UInt8.toNat_inj.mp index
        refine .inr ⟨UInt16.toNat_inj.mp ?_, data⟩
        exact wValue_eq_iff.mp ⟨isString, three⟩
    · cases data
  · rw [if_neg isDevice, if_neg isQualifier, if_neg isConfig, if_neg isString] at data
    cases data

/-- `GET_DESCRIPTOR` of string 3. -/
def RequestsSerial (ctrl : UsbCtrlrequest) : Prop :=
  IsGetDescriptor ctrl ∧ ctrl.wValue = 0x0303

/-- A built configuration has at most four interfaces. -/
theorem numInterfaces_le_of_built {count : UInt8} {serials : List String}
    {config : ConfigDescriptorSet} (built : Built count serials config) :
    config.numInterfaces.toNat ≤ 4 := by
  rw [built.wellFormed.numInterfaces]
  exact UInt8.le_iff_toNat_le.mp built.wellFormed.accepted.2

/-- For a built configuration the reply fails to build exactly for a long read
of a serial whose descriptor exceeds the transfer buffer. -/
theorem controlReply_eq_none_iff_of_built {count : UInt8} {serials : List String}
    {config : ConfigDescriptorSet} (built : Built count serials config) {ctrl : UsbCtrlrequest} :
    controlReply (buildDescriptorBytes config) ctrl = none ↔
      RequestsSerial ctrl ∧ 16384 < ctrl.wLength.toNat ∧
        8191 < (encodeUtf16 config.identity.serial.toList).length := by
  have wellFormed := built.wellFormed
  have few := numInterfaces_le_of_built built
  have serialBlob : (buildDescriptorBytes config).stringSerial =
      some (encodeStringDescriptor config.identity.serial) := by
    simp [buildDescriptorBytes, wellFormed.serialString]
  rw [controlReply_eq_none_iff]
  constructor
  · rintro ⟨get, bytes, data, tooLong⟩
    have cases := descriptorData_short 16384 data
      (by simp [buildDescriptorBytes]) (by simp [buildDescriptorBytes, qualifierDescriptor])
      (by simp only [buildDescriptorBytes, length_configBlob]; omega)
      (by simp [buildDescriptorBytes])
      (by
        intro d manufacturer
        simp only [buildDescriptorBytes, wellFormed.manufacturerString, Option.map_some,
          Option.some.injEq, wellFormed.manufacturer] at manufacturer
        have short := default_strings_short.1
        rw [← manufacturer, length_encodeStringDescriptor]
        omega)
      (by
        intro d product
        simp only [buildDescriptorBytes, wellFormed.productString, Option.map_some,
          Option.some.injEq, wellFormed.productName] at product
        have short := default_strings_short.2
        rw [← product, length_encodeStringDescriptor]
        omega)
    rcases cases with short | ⟨isSerial, blob⟩
    · omega
    · rw [serialBlob, Option.some.injEq] at blob
      rw [← blob, length_encodeStringDescriptor] at tooLong
      exact ⟨⟨get, isSerial⟩, by omega, by omega⟩
  · rintro ⟨⟨get, isSerial⟩, longRead, longSerial⟩
    have data : descriptorData (buildDescriptorBytes config) ctrl.wValue =
        some (encodeStringDescriptor config.identity.serial) := by
      rw [isSerial, ← serialBlob]
      rfl
    refine ⟨get, _, data, ?_⟩
    rw [length_encodeStringDescriptor]
    omega

/-- With at most four interfaces only an unbuildable reply leaves its bounds. -/
theorem handleControl_outOfBounds_iff {os : Os K} {numInterfaces : UInt8} {ctrl : UsbCtrlrequest}
    {desc : DescriptorBytes} {w : Ep0World K} (few : numInterfaces.toNat ≤ 4) :
    (handleControl os numInterfaces ctrl desc w).OutOfBounds ↔ controlReply desc ctrl = none := by
  by_cases set : IsSetConfiguration ctrl
  · -- SET_CONFIGURATION completes or finds the mutex poisoned.
    have notGet : controlReply desc ctrl ≠ none := by
      rw [ne_eq, controlReply_eq_none_iff]
      rintro ⟨⟨-, get⟩, -⟩
      have differ : usbReqSetConfiguration ≠ usbReqGetDescriptor := by decide
      exact differ (set.2.symm.trans get)
    simp only [notGet, iff_false]
    rw [handleControl_of_setConfiguration set]
    cases poisoned : w.poisoned with
    | false =>
        rw [setConfiguration_eq few poisoned]
        exact Outcome.not_outOfBounds_ok _
    | true =>
        rintro ⟨state, panicked⟩
        simp [setConfiguration, poisoned] at panicked
  · rw [handleControl_of_not_setConfiguration set]
    cases reply : controlReply desc ctrl with
    | none => simp [Outcome.OutOfBounds]
    | some call => simp

/-- Handling a request stays inside every array unless it reads more than 16384
bytes of a serial longer than 8191 UTF-16 code units. -/
theorem handleControl_inBounds_iff {count : UInt8} {serials : List String}
    {config : ConfigDescriptorSet} (built : Built count serials config) (os : Os K)
    (ctrl : UsbCtrlrequest) (w : Ep0World K) :
    ¬(handleControl os config.numInterfaces ctrl (buildDescriptorBytes config) w).OutOfBounds ↔
      (RequestsSerial ctrl → 16384 < ctrl.wLength.toNat →
        (encodeUtf16 (serials.getLastD ReceiverIdentity.default.serial).toList).length ≤ 8191) := by
  rw [handleControl_outOfBounds_iff (numInterfaces_le_of_built built),
    controlReply_eq_none_iff_of_built built, built.wellFormed.serial]
  constructor
  · intro safe serial longRead
    by_contra longSerial
    exact safe ⟨serial, longRead, by omega⟩
  · rintro safe ⟨serial, longRead, longSerial⟩
    have short := safe serial longRead
    omega

/-- The host's first read of any string descriptor: at most 255 bytes. -/
theorem handleControl_inBounds_short_read :
    ∃ config, Built 4 [letters 8192] config ∧
      ¬(handleControl (⟨fun k _ => (⟨0, 0⟩, k)⟩ : Os Unit) config.numInterfaces
        ⟨0x80, usbReqGetDescriptor, 0x0303, 0x0409, 255⟩ (buildDescriptorBytes config)
        (Ep0World.new ())).OutOfBounds := by
  have built := Built.renamed (Built.fresh (show new 4 = .ok _ from rfl)) (letters 8192)
  refine ⟨_, built, (handleControl_inBounds_iff built _ _ _).mpr ?_⟩
  intro _ longRead
  exact absurd longRead (by decide)

/-- Reading 65535 bytes of a serial of 8192 letters slices past the buffer. -/
theorem handleControl_outOfBounds_long_serial :
    ∃ config, Built 4 [letters 8192] config ∧
      (handleControl (⟨fun k _ => (⟨0, 0⟩, k)⟩ : Os Unit) config.numInterfaces
        ⟨0x80, usbReqGetDescriptor, 0x0303, 0x0409, 0xFFFF⟩ (buildDescriptorBytes config)
        (Ep0World.new ())).OutOfBounds := by
  have built := Built.renamed (Built.fresh (show new 4 = .ok _ from rfl)) (letters 8192)
  refine ⟨_, built, ?_⟩
  rw [handleControl_outOfBounds_iff (numInterfaces_le_of_built built),
    controlReply_eq_none_iff_of_built built]
  refine ⟨⟨⟨rfl, rfl⟩, rfl⟩, by decide, ?_⟩
  rw [withSerial_identity, length_encodeUtf16_letters]
  omega

end X360Gadget.Transport
