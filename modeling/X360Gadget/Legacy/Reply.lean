import X360Gadget.Kernel.Transfer
import X360Gadget.Legacy.Ep0
import X360Gadget.Transport.Control

/-!
# What the C gadget answers

`requestBytes` is the data `ep0_request` prepares for a control request, and
`answerTransfer` the one call that carries it. `handleControl_of_known` says that
the handler makes this call and no other: what the stack held before is never
part of it.
-/

namespace X360Gadget.Legacy

open X360Gadget.Descriptors X360Gadget.Kernel X360Gadget.Std
open X360Gadget.Transport (IsSetConfiguration)

variable {K : Type}

/-! ## Filling the transfer -/

/-- The transfer counts `bytes` and holds them at its front. -/
structure Prepared (bytes : List UInt8) (io : UsbRawControlEp0Io) : Prop where
  header : io.inner = { ep := 0, flags := 0, length := UInt32.ofNat bytes.length }
  front : bytes <+: io.data.toList

/-- Nothing was written to the transfer yet. -/
def UsbRawControlEp0Io.Fresh (io : UsbRawControlEp0Io) : Prop :=
  io.inner = { ep := 0, flags := 0, length := 0 }

section Fill

variable {io : UsbRawControlEp0Io} {bytes : List UInt8}

/-- A prepared transfer fits into the data of EP0. -/
theorem Prepared.length_le (prepared : Prepared bytes io) : bytes.length ≤ ep0MaxData := by
  have short := prepared.front.length_le
  rw [Vector.length_toList] at short
  exact short

/-- A fresh transfer carries no bytes. -/
theorem prepared_nil (fresh : io.Fresh) : Prepared [] io := ⟨fresh, List.nil_prefix⟩

/-- Copied bytes replace as many of the buffer. -/
theorem writeAll_eq {before old after : List UInt8}
    (contents : io.data.toList = before ++ (old ++ after)) (room : old.length = bytes.length) :
    ∃ written, io.writeAll before.length bytes = some written ∧ written.inner = io.inner ∧
      written.data.toList = before ++ (bytes ++ after) := by
  induction bytes generalizing io before old with
  | nil =>
      obtain rfl := List.eq_nil_of_length_eq_zero room
      exact ⟨io, rfl, rfl, contents⟩
  | cons byte rest ih =>
      cases old with
      | nil => cases room
      | cons first spare =>
          obtain ⟨middle, wrote, inner, replaced⟩ := write_eq contents byte
          have moved : middle.data.toList = (before ++ [byte]) ++ (spare ++ after) := by
            rw [replaced, List.append_assoc]
            rfl
          obtain ⟨written, wroteRest, innerRest, filled⟩ := ih moved (Nat.succ.inj room)
          refine ⟨written, ?_, innerRest.trans inner, ?_⟩
          · rw [List.length_append] at wroteRest
            rw [UsbRawControlEp0Io.writeAll, wrote]
            exact wroteRest
          · rw [filled, List.append_assoc]
            rfl

/-- Bytes that fit are copied to the front and counted. -/
theorem fill_prepares (fresh : io.Fresh) (fits : bytes.length ≤ ep0MaxData) :
    ∃ filled, io.fill bytes = some filled ∧ Prepared bytes filled := by
  have contents : io.data.toList = [] ++
      (io.data.toList.take bytes.length ++ io.data.toList.drop bytes.length) := by
    rw [List.nil_append, List.take_append_drop]
  have room : (io.data.toList.take bytes.length).length = bytes.length := by
    rw [List.length_take, Vector.length_toList]
    exact Nat.min_eq_left fits
  obtain ⟨written, wrote, inner, filled⟩ := writeAll_eq contents room
  refine ⟨{ written with inner := { written.inner with length := UInt32.ofNat bytes.length } },
    ?_, ?_, ?_⟩
  · rw [List.length_nil] at wrote
    rw [UsbRawControlEp0Io.fill, wrote, Option.map_some]
  · have header : io.inner = { ep := 0, flags := 0, length := 0 } := fresh
    simp only [inner, header]
  · rw [filled, List.nil_append]
    exact List.prefix_append bytes _

/-- A short text of characters the C encoder knows is prepared as its descriptor. -/
theorem setUsbStringDesc_prepares {s : String} (fresh : io.Fresh)
    (representable : (s.toList.all fun char => Representable char) = true)
    (short : s.toList.length ≤ 8191) : ∃ filled, setUsbStringDesc (cBytes s) io = some filled ∧
      Prepared (encodeStringDescriptor s) filled := by
  have every : ∀ char ∈ s.toList, Representable char :=
    fun char member => of_decide_eq_true (List.all_eq_true.mp representable char member)
  obtain ⟨lengthByte, typeByte, spare, after, contents, room⟩ := data_split io short
  obtain ⟨filled, ran, bytes, inner⟩ := setUsbStringDesc_eq every contents room
  have counted : UInt32.ofInt ((2 + 2 * s.toList.length : Nat) : Int) =
      UInt32.ofNat (2 + 2 * s.toList.length) := by
    have fits : 2 + 2 * s.toList.length < 4294967296 := by omega
    rw [← UInt32.toNat_inj, toNat_ofInt_natCast fits, UInt32.toNat_ofNat']
    exact (Nat.mod_eq_of_lt fits).symm
  refine ⟨filled, ran, ?_, ?_⟩
  · have header : io.inner = { ep := 0, flags := 0, length := 0 } := fresh
    rw [inner, header, length_encodeStringDescriptor_eq every, counted]
  · rw [bytes]
    exact List.prefix_append _ after

end Fill

/-! ## Data for each request -/

/-- The configuration at either speed. -/
def configBytes (n : Nat) (otherSpeed : Bool) : List UInt8 :=
  if otherSpeed then (configBlob n).set 1 usbDtOtherSpeedConfig else configBlob n

/-- A configuration has nine bytes and forty-three for each interface. -/
theorem length_configBytes (n : Nat) (otherSpeed : Bool) :
    (configBytes n otherSpeed).length = 9 + n * 43 := by
  cases otherSpeed with
  | false => exact length_configBlob n
  | true => exact List.length_set.trans (length_configBlob n)

/-- The other speed differs in the type byte alone. -/
theorem buildConfig_otherSpeed (n length : Nat) : buildConfig n length true =
    (buildConfig n length false).map fun data => data.set 1 usbDtOtherSpeedConfig := by
  simp only [buildConfig, Option.bind_eq_bind]
  cases put length [] usbConfig.toBytes with
  | none => rfl
  | some header =>
      simp only [Option.bind_some]
      cases (List.range n).foldlM (putInterface length) header with
      | none => rfl
      | some data => rfl

/-- `buildConfig` writes the whole configuration where the buffer has room for it. -/
theorem buildConfig_eq {n length : Nat} (fits : 9 + n * 43 ≤ length) (otherSpeed : Bool) :
    buildConfig n length otherSpeed = some (configBytes n otherSpeed) := by
  cases otherSpeed with
  | false => exact buildConfig_eq_configBlob fits
  | true =>
      rw [buildConfig_otherSpeed, buildConfig_eq_configBlob fits]
      rfl

/-- The data of a descriptor request; nothing for a descriptor that is not known. -/
def descriptorBytes (n : Nat) (value : UInt16) : List UInt8 :=
  let descriptorType := (value >>> 8).toUInt8
  let index := value.toUInt8
  if descriptorType = usbDtDevice then usbDevice
  else if descriptorType = usbDtDeviceQualifier then usbQualifier
  else if descriptorType = usbDtConfig then configBytes n false
  else if descriptorType = usbDtOtherSpeedConfig then configBytes n true
  else if descriptorType = usbDtString then
    if index = 0 then [4, usbDtString, 0x00, 0x00]
    else if index = stringIdManufacturer then encodeStringDescriptor "©Microsoft Corporation"
    else if index = stringIdProduct then
      encodeStringDescriptor "Xbox 360 Wireless Receiver for Windows"
    else if index = stringIdSerial then encodeStringDescriptor "08FEC93"
    else []
  else []

/-- The data for a request, unless the request is one that ends the process. -/
def requestBytes (n : Nat) (ctrl : UsbCtrlrequest) : Option (List UInt8) :=
  let typeBits := ctrl.bRequestType &&& usbTypeMask
  if typeBits = usbTypeStandard then
    if ctrl.bRequest = usbReqGetDescriptor then some (descriptorBytes n ctrl.wValue)
    else if ctrl.bRequest = usbReqSetConfiguration then some []
    else if ctrl.bRequest = usbReqGetInterface then some [0]
    else none
  else if typeBits = usbTypeVendor then some []
  else none

/-- The call that carries the data: no longer than the host asked for, in the
direction of the request. -/
def answerTransfer (ctrl : UsbCtrlrequest) (bytes : List UInt8) : Transfer :=
  let header : UsbRawEpIo :=
    { ep := 0, flags := 0, length := UInt32.ofNat (min bytes.length ctrl.wLength.toNat) }
  if ctrl.bRequestType &&& usbDirIn ≠ 0 then .ep0Write header (bytes.take ctrl.wLength.toNat)
  else .ep0Read header

/-! ## The handler prepares this data -/

section Prepare

variable {n : Nat} {io : UsbRawControlEp0Io}

/-- A copy that fits cannot leave the buffer. -/
theorem orOutOfBounds_fill {bytes : List UInt8} (fresh : io.Fresh)
    (fits : bytes.length ≤ ep0MaxData) :
    ∃ filled, orOutOfBounds (io.fill bytes) = .ok filled ∧ Prepared bytes filled := by
  obtain ⟨filled, copied, prepared⟩ := fill_prepares fresh fits
  exact ⟨filled, by rw [copied]; rfl, prepared⟩

/-- The strings of the gadget are short and made of characters the encoder knows. -/
theorem orOutOfBounds_setUsbStringDesc {s : String} (fresh : io.Fresh)
    (representable : (s.toList.all fun char => Representable char) = true)
    (short : s.toList.length ≤ 8191) :
    ∃ filled, orOutOfBounds (setUsbStringDesc (cBytes s) io) = .ok filled ∧
      Prepared (encodeStringDescriptor s) filled := by
  obtain ⟨filled, written, prepared⟩ := setUsbStringDesc_prepares fresh representable short
  exact ⟨filled, by rw [written]; rfl, prepared⟩

/-- `build_config` finds room for every configuration that fits the buffer. -/
theorem replyConfig_prepares (fits : 9 + n * 43 ≤ ep0MaxData) (otherSpeed : Bool)
    (fresh : io.Fresh) : ∃ filled, replyConfig n otherSpeed io = .ok filled ∧
      Prepared (configBytes n otherSpeed) filled := by
  have room : (configBytes n otherSpeed).length ≤ ep0MaxData := by
    rw [length_configBytes]
    exact fits
  rw [replyConfig, buildConfig_eq fits]
  exact orOutOfBounds_fill fresh room

/-- Every descriptor request is prepared for; none stops the process. -/
theorem getDescriptor_prepares (fits : 9 + n * 43 ≤ ep0MaxData) (value : UInt16)
    (fresh : io.Fresh) : ∃ filled, getDescriptor n value io = .ok filled ∧
      Prepared (descriptorBytes n value) filled := by
  unfold getDescriptor descriptorBytes
  dsimp only
  split
  · exact orOutOfBounds_fill fresh (by decide)
  split
  · exact orOutOfBounds_fill fresh (by decide)
  split
  · exact replyConfig_prepares fits false fresh
  split
  · exact replyConfig_prepares fits true fresh
  split
  · split
    · exact orOutOfBounds_fill fresh (by decide)
    split
    · exact orOutOfBounds_setUsbStringDesc fresh (by decide) (by decide)
    split
    · exact orOutOfBounds_setUsbStringDesc fresh (by decide) (by decide)
    split
    · exact orOutOfBounds_setUsbStringDesc fresh (by decide) (by decide)
    · exact ⟨io, rfl, prepared_nil fresh⟩
  · exact ⟨io, rfl, prepared_nil fresh⟩

end Prepare

/-! ## The call that answers -/

/-- The wrapper for the direction of a request. -/
def answerWrapper (ctrl : UsbCtrlrequest) : Wrapper :=
  if ctrl.bRequestType &&& usbDirIn ≠ 0 then .usbRawEp0Write else .usbRawEp0Read

section Answer

variable {io : UsbRawControlEp0Io} {bytes : List UInt8}

/-- The kernel is passed the buffer as it is. -/
theorem bytes_toKernel (io : UsbRawControlEp0Io) : io.toKernel.data.bytes = io.data.toList := by
  simp [UsbRawControlEp0Io.toKernel, IoBuffer.bytes]

/-- The transfer as the host's length cuts it. -/
def clip (ctrl : UsbCtrlrequest) (io : UsbRawControlEp0Io) : UsbRawControlEp0Io :=
  if ctrl.wLength.toUInt32 < io.inner.length then
    { io with inner := { io.inner with length := ctrl.wLength.toUInt32 } }
  else io

/-- Cutting changes the count alone. -/
theorem clip_data (ctrl : UsbCtrlrequest) (io : UsbRawControlEp0Io) :
    (clip ctrl io).data = io.data := by
  unfold clip
  split <;> rfl

/-- Clipping shortens the transfer to the length that the host asks for. -/
theorem clip_inner (prepared : Prepared bytes io) (ctrl : UsbCtrlrequest) :
    (clip ctrl io).inner =
      { ep := 0, flags := 0, length := UInt32.ofNat (min bytes.length ctrl.wLength.toNat) } := by
  have short := prepared.length_le
  have counted : (UInt32.ofNat bytes.length).toNat = bytes.length := by
    rw [UInt32.toNat_ofNat']
    exact Nat.mod_eq_of_lt (Nat.lt_of_le_of_lt short (by decide))
  have asked : ctrl.wLength.toUInt32 = UInt32.ofNat ctrl.wLength.toNat := by
    rw [← UInt32.toNat_inj, UInt16.toNat_toUInt32, UInt32.toNat_ofNat']
    exact (Nat.mod_eq_of_lt (Nat.lt_trans ctrl.wLength.toNat_lt (by decide))).symm
  unfold clip
  split
  · next less =>
      rw [prepared.header, UInt32.lt_iff_toNat_lt, counted, UInt16.toNat_toUInt32] at less
      rw [Nat.min_eq_right (Nat.le_of_lt less), ← asked, prepared.header]
  · next notLess =>
      rw [prepared.header, UInt32.lt_iff_toNat_lt, counted, UInt16.toNat_toUInt32] at notLess
      rw [Nat.min_eq_left (Nat.le_of_not_lt notLess), prepared.header]

/-- A prepared transfer goes out as the call of its request. -/
theorem answer_of_prepared (prepared : Prepared bytes io) (os : Os K) (ctrl : UsbCtrlrequest) :
    ∃ call, call.transfer = answerTransfer ctrl bytes ∧
      ∀ w, answer os true ctrl io w = ioctl os w (answerWrapper ctrl) call := by
  have header := clip_inner prepared ctrl
  have counted : (clip ctrl io).inner.length.toNat = min bytes.length ctrl.wLength.toNat := by
    have short := prepared.length_le
    have bound : min bytes.length ctrl.wLength.toNat < 4294967296 :=
      Nat.lt_of_le_of_lt (Nat.min_le_left _ _) (Nat.lt_of_le_of_lt short (by decide))
    rw [header, UInt32.toNat_ofNat']
    exact Nat.mod_eq_of_lt bound
  by_cases isIn : ctrl.bRequestType &&& usbDirIn ≠ 0
  · refine ⟨.ep0Write (clip ctrl io).toKernel, ?_, ?_⟩
    · obtain ⟨rest, contents⟩ := prepared.front
      have copied : (clip ctrl io).toKernel.data.bytes.take (clip ctrl io).inner.length.toNat =
          bytes.take ctrl.wLength.toNat := by
        rw [bytes_toKernel, clip_data, counted, ← contents,
          List.take_append_of_le_length (Nat.min_le_left _ _), Nat.min_comm, ← List.take_take,
          List.take_length]
      rw [answerTransfer, if_pos isIn, ← copied, ← header]
      rfl
    · intro w
      rw [answer, answerWrapper, if_pos isIn, if_pos isIn]
      rfl
  · refine ⟨.ep0Read (clip ctrl io).toKernel, ?_, ?_⟩
    · rw [answerTransfer, if_neg isIn, ← header]
      rfl
    · intro w
      rw [answer, answerWrapper, if_neg isIn, if_neg isIn]
      rfl

end Answer

/-! ## The handler -/

section Handler

variable (os : Os K) {n : Nat} {ctrl : UsbCtrlrequest} (stack : Vector UInt8 16384)
  (w : LegacyWorld K)

/-- The call that answers, and nothing of what it returns. -/
def reply (ctrl : UsbCtrlrequest) (call : Syscall) (w : LegacyWorld K) :
    Handler K (LegacyWorld K) :=
  (ioctl os w (answerWrapper ctrl) call).map Prod.snd

/-- A request without data of its own ends the process. -/
theorem ep0Request_of_unknown (io : UsbRawControlEp0Io) (unknown : requestBytes n ctrl = none) :
    ep0Request os n ctrl io w = .error (.unknownRequest, w) := by
  unfold requestBytes at unknown
  unfold ep0Request
  dsimp only at unknown ⊢
  split
  · next standard =>
      rw [if_pos standard] at unknown
      split
      · next get =>
          rw [if_pos get] at unknown
          cases unknown
      · next notGet =>
          rw [if_neg notGet] at unknown
          split
          · next set =>
              rw [if_pos set] at unknown
              cases unknown
          · next notSet =>
              rw [if_neg notSet] at unknown
              split
              · next interface =>
                  rw [if_pos interface] at unknown
                  cases unknown
              · rfl
  · next notStandard =>
      rw [if_neg notStandard] at unknown
      split
      · next vendor =>
          rw [if_pos vendor] at unknown
          cases unknown
      · rfl

/-- A request other than SET_CONFIGURATION makes no call while its data is prepared. -/
theorem ep0Request_of_known (fits : 9 + n * 43 ≤ ep0MaxData) {bytes : List UInt8}
    {io : UsbRawControlEp0Io} (fresh : io.Fresh) (known : requestBytes n ctrl = some bytes)
    (other : ¬IsSetConfiguration ctrl) :
    ∃ filled, ep0Request os n ctrl io w = .ok (true, filled, w) ∧ Prepared bytes filled := by
  unfold requestBytes at known
  unfold ep0Request
  dsimp only at known ⊢
  split
  · next standard =>
      rw [if_pos standard] at known
      split
      · next get =>
          rw [if_pos get] at known
          cases known
          obtain ⟨filled, built, prepared⟩ := getDescriptor_prepares fits ctrl.wValue fresh
          exact ⟨filled, by rw [built], prepared⟩
      · next notGet =>
          rw [if_neg notGet] at known
          split
          · next set => exact absurd ⟨standard, set⟩ other
          · next notSet =>
              rw [if_neg notSet] at known
              split
              · next interface =>
                  rw [if_pos interface] at known
                  cases known
                  have fits : [usbIfXinput.bAlternateSetting].length ≤ ep0MaxData := by decide
                  obtain ⟨filled, copied, prepared⟩ := fill_prepares fresh fits
                  exact ⟨filled, by rw [copied], prepared⟩
              · next notInterface =>
                  rw [if_neg notInterface] at known
                  cases known
  · next notStandard =>
      rw [if_neg notStandard] at known
      split
      · next vendor =>
          rw [if_pos vendor] at known
          cases known
          exact ⟨io, rfl, prepared_nil fresh⟩
      · next notVendor =>
          rw [if_neg notVendor] at known
          cases known

/-- SET_CONFIGURATION empties the transfer once the configuration is set. -/
theorem ep0Request_of_setConfiguration (io : UsbRawControlEp0Io)
    (set : IsSetConfiguration ctrl) :
    ep0Request os n ctrl io w = setConfiguration os n w >>= fun w =>
      .ok (true, { io with inner := { io.inner with length := 0 } }, w) := by
  have notGet : ctrl.bRequest ≠ usbReqGetDescriptor := by
    rw [set.2]
    decide
  unfold ep0Request
  dsimp only
  rw [if_pos set.1, if_neg notGet, if_pos set.2]

/-- What the stack held before the loop placed its transfer there. -/
def freshIo : UsbRawControlEp0Io :=
  { inner := { ep := 0, flags := 0, length := 0 }, data := stack }

/-- A control request is prepared first and answered then. -/
theorem handleControl_eq : handleControl os n ctrl stack w =
    ep0Request os n ctrl (freshIo stack) w >>= fun answered =>
      (answer os answered.1 ctrl answered.2.1 answered.2.2).map Prod.snd := by
  change (ep0Request os n ctrl (freshIo stack) w >>= _) = _
  cases ep0Request os n ctrl (freshIo stack) w with
  | error stop => rfl
  | ok answered =>
      change (answer os answered.1 ctrl answered.2.1 answered.2.2 >>= _) =
        (answer os answered.1 ctrl answered.2.1 answered.2.2).map Prod.snd
      cases answer os answered.1 ctrl answered.2.1 answered.2.2 <;> rfl

/-- A request that `ep0_request` does not know ends the process. -/
theorem handleControl_of_unknown (unknown : requestBytes n ctrl = none) :
    handleControl os n ctrl stack w = .error (.unknownRequest, w) := by
  rw [handleControl_eq, ep0Request_of_unknown os w _ unknown]
  rfl

/-- Any other request but SET_CONFIGURATION makes the one call that carries its data. -/
theorem handleControl_of_known (fits : 9 + n * 43 ≤ ep0MaxData) {bytes : List UInt8}
    (known : requestBytes n ctrl = some bytes) (other : ¬IsSetConfiguration ctrl) :
    ∃ call, call.transfer = answerTransfer ctrl bytes ∧
      handleControl os n ctrl stack w = reply os ctrl call w := by
  have fresh : (freshIo stack).Fresh := rfl
  obtain ⟨filled, requested, prepared⟩ := ep0Request_of_known os w fits fresh known other
  obtain ⟨call, carries, answered⟩ := answer_of_prepared prepared os ctrl
  refine ⟨call, carries, ?_⟩
  rw [handleControl_eq, requested, reply, ← answered]
  rfl

/-- SET_CONFIGURATION is answered once the configuration is set. -/
theorem handleControl_of_setConfiguration (set : IsSetConfiguration ctrl) :
    ∃ call, call.transfer = answerTransfer ctrl [] ∧
      handleControl os n ctrl stack w = setConfiguration os n w >>= reply os ctrl call := by
  have prepared : Prepared [] { (freshIo stack) with
      inner := { (freshIo stack).inner with length := 0 } } := prepared_nil rfl
  obtain ⟨call, carries, answered⟩ := answer_of_prepared prepared os ctrl
  refine ⟨call, carries, ?_⟩
  rw [handleControl_eq, ep0Request_of_setConfiguration os w _ set]
  cases setConfiguration os n w with
  | error stop => rfl
  | ok w => exact congrArg (Except.map Prod.snd) (answered w)

end Handler

end X360Gadget.Legacy
