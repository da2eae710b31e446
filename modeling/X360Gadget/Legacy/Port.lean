import X360Gadget.Legacy.Confinement
import X360Gadget.Transport.Configured
import X360Gadget.Transport.DataStage

/-!
# The C gadget and its Rust port

Both programs answer the same control requests from the same kind of kernel.
`trace` and `portTrace` are what a device is given while each of them handles one
request, and `answersAlike_iff` says for which requests the two are the same.
-/

namespace X360Gadget.Legacy

open X360Gadget.Descriptors X360Gadget.Kernel X360Gadget.Std X360Gadget.Transport
open ConfigDescriptorSet

variable {K : Type} {os : Os K}

/-! ## What each program gives to the device -/

/-- What the device is given while the C gadget handles a request. -/
def trace (os : Os K) (n : Nat) (ctrl : UsbCtrlrequest) (stack : Vector UInt8 16384) (k : K) :
    List Transfer :=
  (finalKernel (handleControl os.traced n ctrl stack (.new (k, [])))).2

/-- What the device is given while the Rust port handles one; its threads are no
concern of the device. -/
def portTrace (os : Os K) (config : ConfigDescriptorSet) (ctrl : UsbCtrlrequest) (k : K) :
    List Transfer :=
  ((Transport.handleControl os.traced config.numInterfaces ctrl (buildDescriptorBytes config)
    (.new (k, []))).finalState.kernel.2).filter Transfer.toDevice

/-- The descriptors for which the two hold the same bytes. -/
def NamesShared (value : UInt16) : Prop :=
  (value >>> 8).toUInt8 = usbDtDevice ∨ (value >>> 8).toUInt8 = usbDtDeviceQualifier ∨
    (value >>> 8).toUInt8 = usbDtConfig ∨ value = 0x0301 ∨ value = 0x0302 ∨ value = 0x0303

instance (value : UInt16) : Decidable (NamesShared value) :=
  inferInstanceAs (Decidable (_ ∨ _))

/-- The requests that both programs answer alike. Of the language list, string 0,
they share the first two bytes. -/
def AnsweredAlike (ctrl : UsbCtrlrequest) : Prop :=
  let isIn := ctrl.bRequestType &&& usbDirIn ≠ 0
  if ctrl.bRequestType &&& usbTypeMask = usbTypeVendor then
    isIn → ctrl.wLength.toNat = 0
  else if ctrl.bRequestType &&& usbTypeMask ≠ usbTypeStandard then
    False
  else if ctrl.bRequest = usbReqGetDescriptor then
    isIn ∧ (NamesShared ctrl.wValue ∨ (ctrl.wValue = 0x0300 ∧ ctrl.wLength.toNat ≤ 2))
  else if ctrl.bRequest = usbReqSetConfiguration then
    ¬isIn
  else if ctrl.bRequest = usbReqGetInterface then
    isIn ∧ 0 < ctrl.wLength.toNat
  else
    False

/-! ## The C gadget -/

section Gadget

variable {n : Nat} {ctrl : UsbCtrlrequest}

/-- A call adds itself to the trace, whether or not it succeeds. -/
theorem finalKernel_reply (ctrl : UsbCtrlrequest) (call : Syscall)
    (w : LegacyWorld (K × List Transfer)) :
    (finalKernel (reply os.traced ctrl call w)).2 = w.kernel.2 ++ [call.transfer] := by
  rw [reply, ioctl]
  cases (os.traced.serve w.kernel call).1.result with
  | ok rv => rfl
  | error errno => rfl

/-- What SET_CONFIGURATION gives to the device before it is answered. -/
def configurationTransfers (n : Nat) : List Transfer :=
  ((List.range n).flatMap fun i =>
    [.epEnable (epInDesc i), .epEnable (epOutDesc i)]) ++ [.vbusDraw 0xFA, .configure]

/-- Both programs describe the IN endpoint of an interface alike. -/
theorem epIn_getIfX (i : Nat) : (getIfX i).epIn = epInDesc i := by
  have number : UInt8.ofNat (i + 1) = UInt8.ofNat i + 1 := UInt8.ofNat_add i 1
  simp only [getIfX, number]
  rfl

/-- The OUT endpoint of an interface has the descriptor of the table. -/
theorem epOut_getIfX (i : Nat) : (getIfX i).epOut = epOutDesc i := by
  have number : UInt8.ofNat (i + 1) = UInt8.ofNat i + 1 := UInt8.ofNat_add i 1
  have outAddress : usbDirOut ||| (UInt8.ofNat i + 1) = UInt8.ofNat i + 1 := UInt8.zero_or
  simp only [getIfX, number, outAddress]
  rfl

section Accepting

variable (accepts : ∀ k call, ¬(os.serve k call).1.rv < 0)

include accepts

/-- A call that succeeds goes on where it left the world. -/
theorem ioctl_of_accepts (w : LegacyWorld (K × List Transfer)) (wrapper : Wrapper)
    (call : Syscall) : ∃ rv, ioctl os.traced w wrapper call = .ok (rv, w.after os.traced call) := by
  have answered : (os.traced.serve w.kernel call).1.result =
      .ok (os.serve w.kernel.1 call).1.rv := by
    rw [traced_reply, SyscallReply.result, if_neg (accepts w.kernel.1 call)]
  exact ⟨_, by rw [ioctl, answered]⟩

/-- Enabling an interface enables its IN endpoint and then its OUT endpoint. -/
theorem enableInterface_trace (w : LegacyWorld (K × List Transfer)) (i : Nat) :
    ∃ after, enableInterface os.traced w i = .ok after ∧
      after.kernel.2 = w.kernel.2 ++ [.epEnable (epInDesc i), .epEnable (epOutDesc i)] := by
  obtain ⟨epIntIn, enabledIn⟩ :=
    ioctl_of_accepts accepts w .usbRawEpEnable (.epEnable (getIfX i).epIn)
  obtain ⟨epIntOut, enabledOut⟩ := ioctl_of_accepts accepts
    (w.after os.traced (.epEnable (getIfX i).epIn)) .usbRawEpEnable (.epEnable (getIfX i).epOut)
  refine ⟨(w.after os.traced (.epEnable (getIfX i).epIn)).after os.traced
    (.epEnable (getIfX i).epOut), ?_, ?_⟩
  · simp only [enableInterface, usbRawEpEnable, enabledIn]
    change (ioctl os.traced _ .usbRawEpEnable (.epEnable (getIfX i).epOut) >>= _) = _
    rw [enabledOut]
    rfl
  · change (w.kernel.2 ++ [Transfer.epEnable (getIfX i).epIn]) ++
      [Transfer.epEnable (getIfX i).epOut] = _
    rw [epIn_getIfX, epOut_getIfX, List.append_assoc]
    rfl

/-- Enabling a list of interfaces enables their endpoints in that order. -/
theorem foldlM_enableInterface_trace (slots : List Nat) (w : LegacyWorld (K × List Transfer)) :
    ∃ after, slots.foldlM (enableInterface os.traced) w = .ok after ∧
      after.kernel.2 = w.kernel.2 ++ slots.flatMap fun i =>
        [.epEnable (epInDesc i), .epEnable (epOutDesc i)] := by
  induction slots generalizing w with
  | nil => exact ⟨w, rfl, (List.append_nil _).symm⟩
  | cons i rest ih =>
      obtain ⟨middle, enabled, first⟩ := enableInterface_trace accepts w i
      obtain ⟨after, enabledRest, later⟩ := ih middle
      refine ⟨after, ?_, ?_⟩
      · rw [List.foldlM_cons, enabled]
        exact enabledRest
      · rw [later, first, List.append_assoc, List.flatMap_cons]

/-- The C program hands the calls of the configuration to the device. -/
theorem setConfiguration_trace (w : LegacyWorld (K × List Transfer)) :
    ∃ after, setConfiguration os.traced n w = .ok after ∧
      after.kernel.2 = w.kernel.2 ++ configurationTransfers n := by
  obtain ⟨middle, enabled, slots⟩ := foldlM_enableInterface_trace accepts (List.range n) w
  obtain ⟨drawn, powered⟩ := ioctl_of_accepts accepts { middle with epIntEnabled := true }
    .usbRawVbusDraw (.vbusDraw usbConfig.bMaxPower.toUInt32)
  obtain ⟨done, configured⟩ := ioctl_of_accepts accepts
    (LegacyWorld.after os.traced { middle with epIntEnabled := true }
      (.vbusDraw usbConfig.bMaxPower.toUInt32)) .usbRawConfigure .configure
  refine ⟨(LegacyWorld.after os.traced { middle with epIntEnabled := true }
    (.vbusDraw usbConfig.bMaxPower.toUInt32)).after os.traced .configure, ?_, ?_⟩
  · rw [setConfiguration, enabled]
    change (usbRawVbusDraw os.traced { middle with epIntEnabled := true } _ >>= _) = _
    rw [usbRawVbusDraw, powered]
    change (usbRawConfigure os.traced _ >>= _) = _
    rw [usbRawConfigure, configured]
    rfl
  · change (middle.kernel.2 ++ [Transfer.vbusDraw 0xFA]) ++ [Transfer.configure] = _
    rw [slots, configurationTransfers, List.append_assoc, List.append_assoc]
    rfl

/-- The request and its answer, one after the other. -/
theorem trace_of_setConfiguration (set : IsSetConfiguration ctrl) (stack : Vector UInt8 16384)
    (k : K) : trace os n ctrl stack k = configurationTransfers n ++ [answerTransfer ctrl []] := by
  obtain ⟨call, carries, handled⟩ :=
    handleControl_of_setConfiguration os.traced (n := n) stack (.new (k, [])) set
  obtain ⟨after, configured, given⟩ := setConfiguration_trace (n := n) accepts (.new (k, []))
  rw [trace, handled, configured]
  refine (finalKernel_reply ctrl call after).trans ?_
  rw [given, carries]
  rfl

end Accepting

/-- Any other request is its one answer, or the end of the process. -/
theorem trace_of_not_setConfiguration (few : n ≤ 4) (other : ¬IsSetConfiguration ctrl)
    (stack : Vector UInt8 16384) (k : K) :
    trace os n ctrl stack k = ((requestBytes n ctrl).map (answerTransfer ctrl)).toList := by
  cases known : requestBytes n ctrl with
  | none =>
      rw [trace, handleControl_of_unknown os.traced stack (.new (k, [])) known]
      rfl
  | some bytes =>
      obtain ⟨call, carries, handled⟩ :=
        handleControl_of_known os.traced stack (.new (k, [])) (fits_of_few few) known other
      rw [trace, handled, finalKernel_reply, carries]
      rfl

end Gadget

/-! ## The Rust port -/

section Port

/-- A blob that fits the transfer is one write of what the host asked for. -/
theorem descriptorReply_transfer {bytes : List UInt8} (short : bytes.length ≤ 16384)
    (length : Nat) : ∃ call, descriptorReply bytes length = some call ∧
      call.transfer = .ep0Write
        { ep := 0, flags := 0, length := UInt32.ofNat (min bytes.length length) }
        (bytes.take length) := by
  cases replied : descriptorReply bytes length with
  | none =>
      have tooLong := descriptorReply_eq_none_iff.mp replied
      omega
  | some call =>
      obtain ⟨io, same, -, sent⟩ := descriptorReply_sends replied
      obtain ⟨data, -, built⟩ := Option.map_eq_some_iff.mp replied
      refine ⟨call, rfl, ?_⟩
      rw [same] at built ⊢
      cases built
      exact congrArg (Transfer.ep0Write _) sent

/-- The descriptors of the port, as the C gadget knows them. -/
def portDescriptor (n : Nat) (value : UInt16) : Option (List UInt8) :=
  if NamesShared value then some (descriptorBytes n value)
  else if value = 0x0300 then some [0x04, 0x03, 0x09, 0x04]
  else none

/-- A value with the type of a string names it by its index. -/
theorem stringData_of_other {desc : DescriptorBytes} {value : UInt16}
    (isString : (value >>> 8).toUInt8 = usbDtString) (lang : value ≠ 0x0300)
    (manufacturer : value ≠ 0x0301) (product : value ≠ 0x0302) (serial : value ≠ 0x0303) :
    desc.stringData (value &&& 0xFF).toUInt8 = none := by
  have named : ∀ index : UInt8, (value &&& 0xFF).toUInt8.toNat = index.toNat →
      value.toNat = 256 * usbDtString.toNat + index.toNat :=
    fun index same => wValue_eq_iff.mp ⟨isString, UInt8.toNat_inj.mp same⟩
  unfold DescriptorBytes.stringData
  split
  · next index => exact absurd (UInt16.toNat_inj.mp (named 0 index)) lang
  · next index => exact absurd (UInt16.toNat_inj.mp (named 1 index)) manufacturer
  · next index => exact absurd (UInt16.toNat_inj.mp (named 2 index)) product
  · next index => exact absurd (UInt16.toNat_inj.mp (named 3 index)) serial
  · rfl

/-- For a new configuration the port serves what the C gadget serves, but for the
language list. -/
theorem descriptorData_new {count : UInt8} {config : ConfigDescriptorSet}
    (accepted : ConfigDescriptorSet.new count = .ok config) (value : UInt16) :
    descriptorData (buildDescriptorBytes config) value =
      portDescriptor config.numInterfaces.toNat value := by
  obtain ⟨-, rfl⟩ := new_eq_ok_iff.mp accepted
  by_cases lang : value = 0x0300
  · rw [lang]
    rfl
  by_cases manufacturer : value = 0x0301
  · rw [manufacturer]
    rfl
  by_cases product : value = 0x0302
  · rw [product]
    rfl
  by_cases serial : value = 0x0303
  · rw [serial]
    rfl
  unfold descriptorData portDescriptor
  dsimp only
  rw [if_neg lang]
  by_cases isDevice : (value >>> 8).toUInt8 = usbDtDevice
  · rw [if_pos isDevice, if_pos (.inl isDevice), descriptorBytes, if_pos isDevice]
    exact congrArg some (by rfl : deviceDescriptor ReceiverIdentity.default = usbDevice)
  by_cases isQualifier : (value >>> 8).toUInt8 = usbDtDeviceQualifier
  · rw [if_neg isDevice, if_pos isQualifier, if_pos (.inr (.inl isQualifier)), descriptorBytes,
      if_neg isDevice, if_pos isQualifier]
    rfl
  by_cases isConfig : (value >>> 8).toUInt8 = usbDtConfig
  · rw [if_neg isDevice, if_neg isQualifier, if_pos isConfig,
      if_pos (.inr (.inr (.inl isConfig))), descriptorBytes, if_neg isDevice,
      if_neg isQualifier, if_pos isConfig]
    rfl
  have notShared : ¬NamesShared value := by
    rintro (device | qualifier | config | one | two | three)
    · exact isDevice device
    · exact isQualifier qualifier
    · exact isConfig config
    · exact manufacturer one
    · exact product two
    · exact serial three
  rw [if_neg isDevice, if_neg isQualifier, if_neg isConfig, if_neg notShared]
  split
  · next isString => exact stringData_of_other isString lang manufacturer product serial
  · rfl

/-- Every descriptor of the C gadget fits a transfer. -/
theorem length_descriptorBytes_le {n : Nat} (few : n ≤ 4) (value : UInt16) :
    (descriptorBytes n value).length ≤ 16384 := by
  have fresh : (freshIo (Vector.replicate 16384 0)).Fresh := rfl
  obtain ⟨filled, -, prepared⟩ := getDescriptor_prepares (fits_of_few few) value fresh
  exact prepared.length_le

/-- No descriptor of at most four interfaces outgrows the data of EP0. -/
theorem length_portDescriptor_le {n : Nat} (few : n ≤ 4) {value : UInt16} {bytes : List UInt8}
    (served : portDescriptor n value = some bytes) : bytes.length ≤ 16384 := by
  unfold portDescriptor at served
  split at served
  · cases served
    exact length_descriptorBytes_le few value
  · split at served
    · cases served
      decide
    · cases served

/-- The one call of the port for a request other than SET_CONFIGURATION. -/
def portAnswer (n : Nat) (ctrl : UsbCtrlrequest) : Transfer :=
  let length := ctrl.wLength.toNat
  if ctrl.bRequestType &&& usbTypeMask = usbTypeVendor then
    if ctrl.bRequestType &&& usbDirIn ≠ 0 then
      .ep0Write { ep := 0, flags := 0, length := UInt32.ofNat (min length 16384) }
        ((List.replicate 16384 0).take length)
    else .ep0Read { ep := 0, flags := 0, length := 0 }
  else if ctrl.bRequestType &&& usbTypeMask ≠ usbTypeStandard then .ep0Stall
  else if ctrl.bRequest = usbReqGetDescriptor then
    match portDescriptor n ctrl.wValue with
    | some bytes =>
        .ep0Write { ep := 0, flags := 0, length := UInt32.ofNat (min bytes.length length) }
          (bytes.take length)
    | none => .ep0Stall
  else if ctrl.bRequest = usbReqGetInterface then
    .ep0Write { ep := 0, flags := 0, length := 1 } [0]
  else .ep0Stall

section Accepted

variable {count : UInt8} {config : ConfigDescriptorSet}
  (accepted : ConfigDescriptorSet.new count = .ok config) {ctrl : UsbCtrlrequest}

include accepted

/-- An accepted configuration has at most four interfaces. -/
theorem few_of_accepted : config.numInterfaces.toNat ≤ 4 := by
  obtain ⟨⟨-, few⟩, rfl⟩ := new_eq_ok_iff.mp accepted
  exact UInt8.le_iff_toNat_le.mp few

/-- The reply of the port carries the answer that `portAnswer` names. -/
theorem controlReply_transfer : ∃ call,
    controlReply (buildDescriptorBytes config) ctrl = some call ∧
      call.transfer = portAnswer config.numInterfaces.toNat ctrl := by
  unfold controlReply portAnswer
  dsimp only
  by_cases vendor : ctrl.bRequestType &&& usbTypeMask = usbTypeVendor
  · rw [if_pos vendor, if_pos vendor]
    by_cases isIn : ctrl.bRequestType &&& usbDirIn ≠ 0
    · rw [if_pos isIn, if_pos isIn]
      exact ⟨_, rfl, congrArg (Transfer.ep0Write _) (sent_zeros ctrl.wLength).2⟩
    · rw [if_neg isIn, if_neg isIn]
      exact ⟨_, rfl, rfl⟩
  rw [if_neg vendor, if_neg vendor]
  by_cases standard : ctrl.bRequestType &&& usbTypeMask ≠ usbTypeStandard
  · rw [if_pos standard, if_pos standard]
    exact ⟨_, rfl, rfl⟩
  rw [if_neg standard, if_neg standard]
  by_cases get : ctrl.bRequest = usbReqGetDescriptor
  · rw [if_pos get, if_pos get, descriptorData_new accepted]
    cases served : portDescriptor config.numInterfaces.toNat ctrl.wValue with
    | none => exact ⟨_, rfl, rfl⟩
    | some bytes =>
        have short := length_portDescriptor_le (few_of_accepted accepted) served
        exact descriptorReply_transfer short ctrl.wLength.toNat
  rw [if_neg get, if_neg get]
  by_cases interface : ctrl.bRequest = usbReqGetInterface
  · rw [if_pos interface, if_pos interface]
    exact ⟨_, rfl, rfl⟩
  · rw [if_neg interface, if_neg interface]
    exact ⟨_, rfl, rfl⟩

/-- A request other than SET_CONFIGURATION causes its answer alone. -/
theorem portTrace_of_not_setConfiguration (other : ¬IsSetConfiguration ctrl) (k : K) :
    portTrace os config ctrl k = [portAnswer config.numInterfaces.toNat ctrl] := by
  obtain ⟨call, replied, carries⟩ : ∃ call,
      controlReply (buildDescriptorBytes config) ctrl = some call ∧
        call.transfer = portAnswer config.numInterfaces.toNat ctrl := controlReply_transfer accepted
  have toDevice : (portAnswer config.numInterfaces.toNat ctrl).toDevice = true := by
    have reply := controlReply_isEp0Reply replied
    rw [← carries]
    cases call <;> first | rfl | cases reply
  rw [portTrace, handleControl_of_not_setConfiguration other, replied]
  change [call.transfer].filter Transfer.toDevice = _
  rw [carries, List.filter_singleton, toDevice]
  rfl

end Accepted

/-- A slot gives its two descriptors to the device. -/
theorem configureSlot_trace (w : Ep0World (K × List Transfer)) (i : Nat) :
    (configureSlot os.traced w i).kernel.2.filter Transfer.toDevice =
      w.kernel.2.filter Transfer.toDevice ++
        [.epEnable (epInDesc i), .epEnable (epOutDesc i)] := by
  have enabled : (afterEpOut os.traced w.kernel i).2.filter Transfer.toDevice =
      w.kernel.2.filter Transfer.toDevice ++
        [.epEnable (epInDesc i), .epEnable (epOutDesc i)] := by
    change ((w.kernel.2 ++ [Transfer.epEnable (epInDesc i)]) ++
      [Transfer.epEnable (epOutDesc i)]).filter Transfer.toDevice = _
    rw [List.append_assoc, List.filter_append]
    rfl
  rw [configureSlot_kernel, afterSlot]
  cases (epOutReply os.traced w.kernel i).result with
  | error errno => exact enabled
  | ok h =>
      change ((afterEpOut os.traced w.kernel i).2 ++
        [Transfer.spawnEpOut (UInt8.ofNat i) h]).filter Transfer.toDevice = _
      rw [List.filter_append, enabled]
      exact List.append_nil _

/-- The port enables the endpoints of a list of slots in that order. -/
theorem foldl_configureSlot_trace (os : Os K) (slots : List Nat)
    (w : Ep0World (K × List Transfer)) :
    (slots.foldl (configureSlot os.traced) w).kernel.2.filter Transfer.toDevice =
      w.kernel.2.filter Transfer.toDevice ++
        slots.flatMap fun i => [.epEnable (epInDesc i), .epEnable (epOutDesc i)] := by
  induction slots generalizing w with
  | nil => exact (List.append_nil _).symm
  | cons i rest ih =>
      rw [List.foldl_cons, ih, configureSlot_trace, List.flatMap_cons, List.append_assoc]

/-- SET_CONFIGURATION causes the calls of the configuration and then the status stage. -/
theorem portTrace_of_setConfiguration {config : ConfigDescriptorSet} {ctrl : UsbCtrlrequest}
    (few : config.numInterfaces.toNat ≤ 4) (set : IsSetConfiguration ctrl) (k : K) :
    portTrace os config ctrl k = configurationTransfers config.numInterfaces.toNat ++
      [.ep0Read { ep := 0, flags := 0, length := 0 }] := by
  have slots := foldl_configureSlot_trace os (List.range config.numInterfaces.toNat)
    (.new (k, []))
  rw [portTrace, Transport.handleControl_of_setConfiguration set, setConfiguration_eq few rfl]
  change (((((List.range config.numInterfaces.toNat).foldl (configureSlot os.traced)
    (.new (k, []))).kernel.2 ++ [Transfer.vbusDraw 0xFA]) ++ [Transfer.configure]) ++
      [Transfer.ep0Read { ep := 0, flags := 0, length := 0 }]).filter Transfer.toDevice = _
  rw [List.filter_append, List.filter_append, List.filter_append, slots, configurationTransfers]
  simp only [List.append_assoc]
  rfl

end Port

/-! ## Where they agree -/

section Agree

variable {n : Nat} {ctrl : UsbCtrlrequest}

/-- The language lists of the two agree on their first two bytes. -/
theorem take_lang_iff (length : Nat) :
    ([4, 3, 0, 0] : List UInt8).take length = [4, 3, 9, 4].take length ↔ length ≤ 2 := by
  rcases length with _ | _ | _ | length
  · exact iff_of_true rfl (by decide)
  · exact iff_of_true rfl (by decide)
  · exact iff_of_true rfl (by decide)
  · refine iff_of_false ?_ (by omega)
    intro same
    simp only [List.take_succ_cons, List.cons.injEq] at same
    exact absurd same.2.2.1 (by decide)

/-- For an IN request the two send the same descriptor exactly when they hold the
same bytes as far as the host asks. -/
theorem descriptor_alike_iff (isIn : ctrl.bRequestType &&& usbDirIn ≠ 0) :
    answerTransfer ctrl (descriptorBytes n ctrl.wValue) =
        (match portDescriptor n ctrl.wValue with
          | some bytes => .ep0Write
              { ep := 0, flags := 0, length := UInt32.ofNat (min bytes.length ctrl.wLength.toNat) }
              (bytes.take ctrl.wLength.toNat)
          | none => .ep0Stall) ↔
      NamesShared ctrl.wValue ∨ (ctrl.wValue = 0x0300 ∧ ctrl.wLength.toNat ≤ 2) := by
  rw [answerTransfer, if_pos isIn]
  by_cases shared : NamesShared ctrl.wValue
  · rw [portDescriptor, if_pos shared]
    exact iff_of_true rfl (.inl shared)
  by_cases lang : ctrl.wValue = 0x0300
  · have held : descriptorBytes n ctrl.wValue = [4, 3, 0, 0] := by
      rw [lang]
      rfl
    rw [portDescriptor, if_neg shared, if_pos lang, held]
    constructor
    · intro same
      exact .inr ⟨lang, (take_lang_iff _).mp (Transfer.ep0Write.inj same).2⟩
    · rintro (named | ⟨-, short⟩)
      · exact absurd named shared
      · exact congrArg (Transfer.ep0Write _) ((take_lang_iff _).mpr short)
  · rw [portDescriptor, if_neg shared, if_neg lang]
    refine iff_of_false Transfer.noConfusion ?_
    rintro (named | ⟨isLang, -⟩)
    · exact shared named
    · exact lang isLang

/-- A vendor request is answered alike when it asks for nothing. -/
theorem vendor_alike_iff (isIn : ctrl.bRequestType &&& usbDirIn ≠ 0) :
    answerTransfer ctrl [] =
        .ep0Write { ep := 0, flags := 0, length := UInt32.ofNat (min ctrl.wLength.toNat 16384) }
          ((List.replicate 16384 0).take ctrl.wLength.toNat) ↔ ctrl.wLength.toNat = 0 := by
  rw [answerTransfer, if_pos isIn, List.take_nil, List.length_nil, Nat.zero_min]
  constructor
  · intro same
    have sizes := congrArg List.length (Transfer.ep0Write.inj same).2
    rw [List.length_nil, List.length_take, List.length_replicate] at sizes
    omega
  · intro nothing
    rw [nothing]
    rfl

/-- GET_INTERFACE is answered alike when it asks for something. -/
theorem interface_alike_iff (isIn : ctrl.bRequestType &&& usbDirIn ≠ 0) :
    answerTransfer ctrl [0] = .ep0Write { ep := 0, flags := 0, length := 1 } [0] ↔
      0 < ctrl.wLength.toNat := by
  rw [answerTransfer, if_pos isIn]
  cases ctrl.wLength.toNat with
  | zero =>
      refine iff_of_false ?_ (Nat.lt_irrefl 0)
      intro same
      cases (Transfer.ep0Write.inj same).2
  | succ more =>
      refine iff_of_true ?_ (Nat.succ_pos more)
      have one : min [(0 : UInt8)].length (more + 1) = 1 := Nat.min_eq_left (by simp)
      rw [one, List.take_succ_cons, List.take_nil]
      rfl

/-- Outside SET_CONFIGURATION the answers are the same exactly for the listed requests. -/
theorem answer_alike_iff (other : ¬IsSetConfiguration ctrl) :
    (requestBytes n ctrl).map (answerTransfer ctrl) = some (portAnswer n ctrl) ↔
      AnsweredAlike ctrl := by
  unfold requestBytes portAnswer AnsweredAlike
  dsimp only
  by_cases vendor : ctrl.bRequestType &&& usbTypeMask = usbTypeVendor
  · have notStandard : ctrl.bRequestType &&& usbTypeMask ≠ usbTypeStandard := by
      rw [vendor]
      decide
    rw [if_pos vendor, if_neg notStandard, if_pos vendor, if_pos vendor, Option.map_some,
      Option.some.injEq]
    by_cases isIn : ctrl.bRequestType &&& usbDirIn ≠ 0
    · rw [if_pos isIn, vendor_alike_iff isIn]
      exact ⟨fun nothing _ => nothing, fun nothing => nothing isIn⟩
    · rw [if_neg isIn, answerTransfer, if_neg isIn, List.length_nil, Nat.zero_min]
      exact iff_of_true rfl fun isOut => absurd isOut isIn
  rw [if_neg vendor, if_neg vendor, if_neg vendor]
  by_cases standard : ctrl.bRequestType &&& usbTypeMask = usbTypeStandard
  · have known := not_not.mpr standard
    rw [if_pos standard, if_neg known, if_neg known]
    by_cases get : ctrl.bRequest = usbReqGetDescriptor
    · rw [if_pos get, if_pos get, if_pos get, Option.map_some, Option.some.injEq]
      by_cases isIn : ctrl.bRequestType &&& usbDirIn ≠ 0
      · rw [descriptor_alike_iff isIn, and_iff_right isIn]
      · rw [answerTransfer, if_neg isIn]
        refine iff_of_false ?_ fun alike => isIn alike.1
        cases portDescriptor n ctrl.wValue <;> exact Transfer.noConfusion
    have notSet : ctrl.bRequest ≠ usbReqSetConfiguration := fun set => other ⟨standard, set⟩
    rw [if_neg get, if_neg get, if_neg get, if_neg notSet, if_neg notSet]
    by_cases interface : ctrl.bRequest = usbReqGetInterface
    · rw [if_pos interface, if_pos interface, if_pos interface, Option.map_some,
        Option.some.injEq]
      by_cases isIn : ctrl.bRequestType &&& usbDirIn ≠ 0
      · rw [interface_alike_iff isIn, and_iff_right isIn]
      · rw [answerTransfer, if_neg isIn]
        exact iff_of_false Transfer.noConfusion fun alike => isIn alike.1
    · rw [if_neg interface, if_neg interface, if_neg interface, Option.map_none]
      exact iff_of_false (Option.some_ne_none _).symm id
  · rw [if_neg standard, if_pos standard, if_pos standard, Option.map_none]
    exact iff_of_false (Option.some_ne_none _).symm id

/-- From a kernel that accepts every call, the two programs give the device the same
calls with the same bytes exactly for the listed requests. -/
theorem answersAlike_iff (accepts : ∀ k call, ¬(os.serve k call).1.rv < 0) {count : UInt8}
    {config : ConfigDescriptorSet} (accepted : ConfigDescriptorSet.new count = .ok config)
    (ctrl : UsbCtrlrequest) (stack : Vector UInt8 16384) (k : K) :
    trace os config.numInterfaces.toNat ctrl stack k = portTrace os config ctrl k ↔
      AnsweredAlike ctrl := by
  have few := few_of_accepted accepted
  by_cases set : IsSetConfiguration ctrl
  · have notVendor : ctrl.bRequestType &&& usbTypeMask ≠ usbTypeVendor := by
      rw [set.1]
      decide
    have notGet : ctrl.bRequest ≠ usbReqGetDescriptor := by
      rw [set.2]
      decide
    rw [trace_of_setConfiguration accepts set, portTrace_of_setConfiguration few set,
      List.append_cancel_left_eq, List.cons.injEq, AnsweredAlike, if_neg notVendor,
      if_neg (not_not.mpr set.1), if_neg notGet, if_pos set.2, answerTransfer]
    by_cases isIn : ctrl.bRequestType &&& usbDirIn ≠ 0
    · rw [if_pos isIn]
      exact iff_of_false (fun same => Transfer.noConfusion same.1) (not_not.mpr isIn)
    · rw [if_neg isIn, List.length_nil, Nat.zero_min]
      exact iff_of_true ⟨rfl, rfl⟩ isIn
  · rw [trace_of_not_setConfiguration few set, portTrace_of_not_setConfiguration accepted set,
      ← answer_alike_iff set]
    cases (requestBytes config.numInterfaces.toNat ctrl).map (answerTransfer ctrl) with
    | none => exact iff_of_false (List.cons_ne_nil _ _).symm (Option.some_ne_none _).symm
    | some answered =>
        rw [Option.toList_some, List.cons.injEq, Option.some.injEq]
        exact and_iff_left rfl

end Agree

/-- The host reads the head of the configuration of a receiver with four slots. -/
theorem answersAlike_iff_config : ∃ config, ConfigDescriptorSet.new 4 = .ok config ∧
    (trace Os.accepting config.numInterfaces.toNat ⟨0x80, 0x06, 0x0200, 0, 9⟩
        (Vector.replicate 16384 0) () =
      portTrace Os.accepting config ⟨0x80, 0x06, 0x0200, 0, 9⟩ () ↔
        AnsweredAlike ⟨0x80, 0x06, 0x0200, 0, 9⟩) :=
  have accepted : ConfigDescriptorSet.new 4 = .ok _ := rfl
  ⟨_, accepted, answersAlike_iff Os.accepting_accepts accepted _ _ _⟩

end X360Gadget.Legacy
