import X360Gadget.Descriptors.Bytes
import X360Gadget.Std.Outcome
import X360Gadget.Transport.World

/-!
# Control requests on endpoint zero

`handleControl` answers one control request. Two equations carry everything
proved about it: a request other than SET_CONFIGURATION makes the single call
`controlReply` computes and touches nothing else
(`handleControl_of_not_setConfiguration`), and SET_CONFIGURATION on at most four
interfaces runs to the end (`setConfiguration_eq`).
-/

namespace X360Gadget.Transport

open X360Gadget.Descriptors X360Gadget.Kernel X360Gadget.Std

variable {K : Type}

/-! ## GET_DESCRIPTOR -/

/-- The blob a descriptor request names. -/
def descriptorData (desc : DescriptorBytes) (value : UInt16) : Option (List UInt8) :=
  let descType := (value >>> 8).toUInt8
  let descIndex := (value &&& 0xFF).toUInt8
  if descType = usbDtDevice then some desc.device
  else if descType = usbDtDeviceQualifier then some desc.qualifier
  else if descType = usbDtConfig then some desc.config
  else if descType = usbDtString then desc.stringData descIndex
  else none

/-- Serve a descriptor or stall. The copy into `io.data` is not clamped to its size. -/
def getDescriptor (os : Os K) (desc : DescriptorBytes) (value : UInt16) (length : Nat)
    (w : Ep0World K) : Outcome (Ep0World K) (Ep0World K) :=
  match descriptorData desc value with
  | some bytes =>
      let sendLen := min bytes.length length
      match IoBuffer.copyPrefix? bytes sendLen with
      | some data => .ok (w.issue os (.ep0Write (.ofLength (UInt32.ofNat sendLen) data)))
      | none => .error (.outOfBounds, w)
  | none => .ok (w.issue os .ep0Stall)

/-! ## SET_CONFIGURATION -/

/-- IN endpoint address of slot `i`. -/
def epInAddr (i : Nat) : UInt8 := usbDirIn ||| (UInt8.ofNat i + 1)

/-- OUT endpoint address of slot `i`. -/
def epOutAddr (i : Nat) : UInt8 := UInt8.ofNat i + 1

/-- The IN address of a slot does not wrap below 127 slots. -/
theorem toNat_epInAddr {i : Nat} (bound : i < 127) : (epInAddr i).toNat = 129 + i :=
  toNat_inAddress bound

/-- The OUT address of a slot does not wrap below 127 slots. -/
theorem toNat_epOutAddr {i : Nat} (bound : i < 127) : (epOutAddr i).toNat = i + 1 :=
  toNat_outAddress bound

/-- IN addresses of different slots differ. -/
theorem epInAddr_inj {i j : Nat} (first : i < 127) (second : j < 127) :
    epInAddr i = epInAddr j ↔ i = j := by
  rw [← UInt8.toNat_inj, toNat_epInAddr first, toNat_epInAddr second]
  omega

/-- OUT addresses of different slots differ. -/
theorem epOutAddr_inj {i j : Nat} (first : i < 127) (second : j < 127) :
    epOutAddr i = epOutAddr j ↔ i = j := by
  rw [← UInt8.toNat_inj, toNat_epOutAddr first, toNat_epOutAddr second]
  omega

/-- No address serves both directions. -/
theorem epInAddr_ne_epOutAddr {i j : Nat} (first : i < 127) (second : j < 127) :
    epInAddr i ≠ epOutAddr j := by
  rw [ne_eq, ← UInt8.toNat_inj, toNat_epInAddr first, toNat_epOutAddr second]
  omega

/-- IN endpoint descriptor of slot `i`. -/
def epInDesc (i : Nat) : UsbEndpointDescriptor := .interrupt (epInAddr i) 0x0020 0x04

/-- OUT endpoint descriptor of slot `i`. -/
def epOutDesc (i : Nat) : UsbEndpointDescriptor := .interrupt (epOutAddr i) 0x0020 0x08

/-- Enable the IN endpoint of slot `i` and record its handle; a failure is only printed. -/
def enableEpIn (os : Os K) (i : Nat) (w : Ep0World K) : Outcome (Ep0World K) (Ep0World K) :=
  let call := Syscall.epEnable (epInDesc i)
  match (w.reply os call).result with
  | .ok h =>
      if i < 4 then .ok ((w.issue os call).setEpIn i h)
      else .error (.outOfBounds, w.issue os call)
  | .error _ => .ok (w.issue os call)

/-- Enable the OUT endpoint of slot `i`, record its handle and start its reader. -/
def enableEpOut (os : Os K) (i : Nat) (w : Ep0World K) : Outcome (Ep0World K) (Ep0World K) :=
  let call := Syscall.epEnable (epOutDesc i)
  match (w.reply os call).result with
  | .ok h =>
      if i < 4 then .ok (((w.issue os call).setEpOut i h).spawnEpOut os (UInt8.ofNat i) h)
      else .error (.outOfBounds, w.issue os call)
  | .error _ => .ok (w.issue os call)

/-- The loop over the slots. -/
def enableSlots (os : Os K) : List Nat → Ep0World K → Outcome (Ep0World K) (Ep0World K)
  | [], w => .ok w
  | i :: rest, w => do
      let w ← enableEpIn os i w
      let w ← enableEpOut os i w
      enableSlots os rest w

/-- What follows the loop: power, configured state, acknowledgement, ready. -/
def finishConfiguration (os : Os K) (w : Ep0World K) : Ep0World K :=
  let w := w.issue os (.vbusDraw 0xFA)
  let w := w.issue os .configure
  let w := w.issue os (.ep0Read (.ofLength 0 .zeroed))
  { w with shared := { w.shared with ready := true } }

/-- Finishing logs its three calls. -/
theorem finishConfiguration_log (os : Os K) (w : Ep0World K) : ∃ draw configure acknowledge,
    (finishConfiguration os w).log = w.log ++ [.called (.vbusDraw 0xFA) draw,
      .called .configure configure, .called (.ep0Read (.ofLength 0 .zeroed)) acknowledge] := by
  refine ⟨w.reply os (.vbusDraw 0xFA), (w.issue os (.vbusDraw 0xFA)).reply os .configure,
    ((w.issue os (.vbusDraw 0xFA)).issue os .configure).reply os
      (.ep0Read (.ofLength 0 .zeroed)), ?_⟩
  simp [finishConfiguration]

/-- The whole request runs under the lock, so a panic in it poisons the mutex. -/
def setConfiguration (os : Os K) (numInterfaces : UInt8) (w : Ep0World K) :
    Outcome (Ep0World K) (Ep0World K) :=
  if w.poisoned then
    .error (.poisonedLock, w)
  else
    match enableSlots os (List.range numInterfaces.toNat) w with
    | .ok w => .ok (finishConfiguration os w)
    | .error (why, w) => .error (why, { w with poisoned := true })

/-! ## The dispatcher -/

/-- Answer one control request. -/
def handleControl (os : Os K) (numInterfaces : UInt8) (ctrl : UsbCtrlrequest)
    (desc : DescriptorBytes) (w : Ep0World K) : Outcome (Ep0World K) (Ep0World K) :=
  let reqType := ctrl.bRequestType
  let req := ctrl.bRequest
  let value := ctrl.wValue
  let length := ctrl.wLength.toNat
  let isIn := reqType &&& usbDirIn ≠ 0
  let typeBits := reqType &&& usbTypeMask
  if typeBits = usbTypeVendor then
    if isIn then
      let sendLen := min length 16384
      .ok (w.issue os (.ep0Write (.ofLength (UInt32.ofNat sendLen) .zeroed)))
    else
      .ok (w.issue os (.ep0Read (.ofLength 0 .zeroed)))
  else if typeBits ≠ usbTypeStandard then
    .ok (w.issue os .ep0Stall)
  else if req = usbReqGetDescriptor then
    getDescriptor os desc value length w
  else if req = usbReqSetConfiguration then
    setConfiguration os numInterfaces w
  else if req = usbReqGetInterface then
    .ok (w.issue os (.ep0Write (.ofLength 1 ⟨[0], by decide⟩)))
  else
    .ok (w.issue os .ep0Stall)

/-! ## Requests other than SET_CONFIGURATION -/

/-- A standard SET_CONFIGURATION request. -/
def IsSetConfiguration (ctrl : UsbCtrlrequest) : Prop :=
  ctrl.bRequestType &&& usbTypeMask = usbTypeStandard ∧ ctrl.bRequest = usbReqSetConfiguration

instance (ctrl : UsbCtrlrequest) : Decidable (IsSetConfiguration ctrl) :=
  inferInstanceAs (Decidable (_ ∧ _))

/-- One of EP0_WRITE, EP0_READ and EP0_STALL. -/
def isEp0Reply : Syscall → Bool
  | .ep0Write _ => true
  | .ep0Read _ => true
  | .ep0Stall => true
  | _ => false

/-- The call that serves a blob: none when the copy is out of range. -/
def descriptorReply (bytes : List UInt8) (length : Nat) : Option Syscall :=
  (IoBuffer.copyPrefix? bytes (min bytes.length length)).map fun data =>
    .ep0Write (.ofLength (UInt32.ofNat (min bytes.length length)) data)

/-- The one call that answers a request other than SET_CONFIGURATION: none when
building it slices out of range. -/
def controlReply (desc : DescriptorBytes) (ctrl : UsbCtrlrequest) : Option Syscall :=
  if ctrl.bRequestType &&& usbTypeMask = usbTypeVendor then
    if ctrl.bRequestType &&& usbDirIn ≠ 0 then
      some (.ep0Write (.ofLength (UInt32.ofNat (min ctrl.wLength.toNat 16384)) .zeroed))
    else
      some (.ep0Read (.ofLength 0 .zeroed))
  else if ctrl.bRequestType &&& usbTypeMask ≠ usbTypeStandard then
    some .ep0Stall
  else if ctrl.bRequest = usbReqGetDescriptor then
    match descriptorData desc ctrl.wValue with
    | some bytes => descriptorReply bytes ctrl.wLength.toNat
    | none => some .ep0Stall
  else if ctrl.bRequest = usbReqGetInterface then
    some (.ep0Write (.ofLength 1 ⟨[0], by decide⟩))
  else
    some .ep0Stall

private theorem standard_ne_vendor : usbTypeStandard ≠ usbTypeVendor := by decide

private theorem getInterface_ne : usbReqGetInterface ≠ usbReqGetDescriptor ∧
    usbReqGetInterface ≠ usbReqSetConfiguration := by decide

/-- Any other request makes its one reply and changes nothing else. -/
theorem handleControl_of_not_setConfiguration {os : Os K} {numInterfaces : UInt8}
    {ctrl : UsbCtrlrequest} {desc : DescriptorBytes} {w : Ep0World K}
    (other : ¬IsSetConfiguration ctrl) :
    handleControl os numInterfaces ctrl desc w =
      match controlReply desc ctrl with
      | some call => .ok (w.issue os call)
      | none => .error (.outOfBounds, w) := by
  unfold handleControl controlReply getDescriptor descriptorReply
  by_cases vendor : ctrl.bRequestType &&& usbTypeMask = usbTypeVendor
  · by_cases isIn : ctrl.bRequestType &&& usbDirIn ≠ 0 <;> simp [vendor, isIn]
  · by_cases standard : ctrl.bRequestType &&& usbTypeMask = usbTypeStandard
    · have notSet : ctrl.bRequest ≠ usbReqSetConfiguration := fun set => other ⟨standard, set⟩
      by_cases get : ctrl.bRequest = usbReqGetDescriptor
      · cases data : descriptorData desc ctrl.wValue with
        | none => simp [standard_ne_vendor, standard, get, data]
        | some bytes =>
            cases copied : (IoBuffer.copyPrefix? bytes (min bytes.length ctrl.wLength.toNat) :
                Option (IoBuffer 16384)) with
            | none => simp [standard_ne_vendor, standard, get, data, copied]
            | some buffer => simp [standard_ne_vendor, standard, get, data, copied]
      · by_cases interface : ctrl.bRequest = usbReqGetInterface
        · simp [standard_ne_vendor, standard, interface, getInterface_ne]
        · simp [standard_ne_vendor, standard, notSet, get, interface]
    · simp [vendor, standard]

/-- The reply is one of the three ep0 calls. -/
theorem controlReply_isEp0Reply {desc : DescriptorBytes} {ctrl : UsbCtrlrequest} {call : Syscall}
    (replied : controlReply desc ctrl = some call) : isEp0Reply call = true := by
  unfold controlReply descriptorReply at replied
  repeat' split at replied
  all_goals first
    | cases replied; rfl
    | obtain ⟨data, -, rfl⟩ := Option.map_eq_some_iff.mp replied
      rfl

/-! ## SET_CONFIGURATION on at most four interfaces -/

/-- Enabling the IN endpoint of a slot below four. -/
def recordEpIn (os : Os K) (w : Ep0World K) (i : Nat) : Ep0World K :=
  match (w.reply os (.epEnable (epInDesc i))).result with
  | .ok h => (w.issue os (.epEnable (epInDesc i))).setEpIn i h
  | .error _ => w.issue os (.epEnable (epInDesc i))

/-- Enabling the OUT endpoint of a slot below four. -/
def recordEpOut (os : Os K) (w : Ep0World K) (i : Nat) : Ep0World K :=
  match (w.reply os (.epEnable (epOutDesc i))).result with
  | .ok h => ((w.issue os (.epEnable (epOutDesc i))).setEpOut i h).spawnEpOut os (UInt8.ofNat i) h
  | .error _ => w.issue os (.epEnable (epOutDesc i))

/-- One iteration of the loop for a slot below four. -/
def configureSlot (os : Os K) (w : Ep0World K) (i : Nat) : Ep0World K :=
  recordEpOut os (recordEpIn os w i) i

/-- Enabling the IN endpoint of a slot below four does not panic. -/
theorem enableEpIn_eq {os : Os K} {w : Ep0World K} {i : Nat} (bound : i < 4) :
    enableEpIn os i w = .ok (recordEpIn os w i) := by
  unfold enableEpIn recordEpIn
  cases answer : (w.reply os (.epEnable (epInDesc i))).result <;> simp [answer, bound]

/-- Enabling the OUT endpoint of a slot below four does not panic. -/
theorem enableEpOut_eq {os : Os K} {w : Ep0World K} {i : Nat} (bound : i < 4) :
    enableEpOut os i w = .ok (recordEpOut os w i) := by
  unfold enableEpOut recordEpOut
  cases answer : (w.reply os (.epEnable (epOutDesc i))).result <;> simp [answer, bound]

/-- The loop over slots below four does not panic. -/
theorem enableSlots_eq {os : Os K} {slots : List Nat} {w : Ep0World K}
    (bounds : ∀ i ∈ slots, i < 4) :
    enableSlots os slots w = .ok (slots.foldl (configureSlot os) w) := by
  induction slots generalizing w with
  | nil => rfl
  | cons i rest ih =>
      have head := bounds i List.mem_cons_self
      have tail := ih (w := configureSlot os w i) fun j member =>
        bounds j (List.mem_cons_of_mem i member)
      rw [enableSlots, enableEpIn_eq head]
      exact (congrArg (· >>= enableSlots os rest) (enableEpOut_eq head)).trans tail

/-- The world after a completed SET_CONFIGURATION. -/
def configured (os : Os K) (n : Nat) (w : Ep0World K) : Ep0World K :=
  finishConfiguration os ((List.range n).foldl (configureSlot os) w)

/-- With at most four interfaces and a sound mutex the request completes. -/
theorem setConfiguration_eq {os : Os K} {numInterfaces : UInt8} {w : Ep0World K}
    (few : numInterfaces.toNat ≤ 4) (sound : w.poisoned = false) :
    setConfiguration os numInterfaces w = .ok (configured os numInterfaces.toNat w) := by
  have bounds : ∀ i ∈ List.range numInterfaces.toNat, i < 4 := by
    intro i member
    have below := List.mem_range.mp member
    omega
  rw [setConfiguration, enableSlots_eq bounds]
  simp [sound, configured]

/-- A standard SET_CONFIGURATION reaches its branch. -/
theorem handleControl_of_setConfiguration {os : Os K} {numInterfaces : UInt8}
    {ctrl : UsbCtrlrequest} {desc : DescriptorBytes} {w : Ep0World K}
    (set : IsSetConfiguration ctrl) :
    handleControl os numInterfaces ctrl desc w = setConfiguration os numInterfaces w := by
  have notGet : usbReqSetConfiguration ≠ usbReqGetDescriptor := by decide
  simp [handleControl, set.1, set.2, standard_ne_vendor, notGet]

end X360Gadget.Transport
