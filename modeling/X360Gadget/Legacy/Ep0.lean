import X360Gadget.Legacy.StringDescriptor
import X360Gadget.Legacy.Survey
import X360Gadget.Std.Machine
import X360Gadget.Std.Stopping

/-!
# The ep0 loop of the C gadget

Every failing call and every failed assertion ends the process, so a handler
either returns the state of the program or stops with a reason. `legacy` is the
machine whose actions are the events that `ep0_loop` fetches, up to the first
that stops it. It has a number of interfaces as its parameter, which a result may take
to be one of the values that `interfaceCount_iff` allows.
-/

namespace X360Gadget.Legacy

open X360Gadget.Kernel X360Gadget.Std

variable {K : Type}

/-! ## The program -/

/-- The wrappers of `usb_io.c` that exit when their call fails. -/
inductive Wrapper where
  | usbRawEp0Read
  | usbRawEp0Write
  | usbRawEpEnable
  | usbRawEpDisable
  | usbRawConfigure
  | usbRawVbusDraw
  | usbRawEpsInfo
  | usbRawEp0Stall
deriving DecidableEq, Repr

/-- Why the process ended. -/
inductive Stop where
  /-- `exit(EXIT_FAILURE)` after a failed call. -/
  | exit (wrapper : Wrapper)
  /-- `exit(EXIT_FAILURE)` on a request that `ep0_request` does not know. -/
  | unknownRequest
  /-- A failed assertion of the endpoint survey. -/
  | survey (assertion : Assertion)
  /-- `build_config` asserts that its pieces fit. -/
  | configLength
  /-- A write past the transfer buffer. -/
  | outOfBounds
deriving DecidableEq, Repr

/-- The kernel and the static variables of the program. -/
structure LegacyWorld (K : Type) where
  kernel : K
  epIntEnabled : Bool
  /-- The counter of `assign_ep_address`. -/
  addr : Nat
deriving DecidableEq, Repr

/-- Before the first event. -/
def LegacyWorld.new (kernel : K) : LegacyWorld K where
  kernel
  epIntEnabled := false
  addr := 1

/-- A program part: it returns, or the process ends. -/
abbrev Handler (K Result : Type) : Type := Except (Stop × LegacyWorld K) Result

/-- `n_interfaces` after a call with `n`, and whether it was accepted. -/
def setNInterfaces (n : Int32) (nInterfaces : Nat) : Bool × Nat :=
  if n < 1 ∨ n > 4 then (false, nInterfaces) else (true, n.toInt.toNat)

/-- The number of interfaces stays in range. -/
theorem setNInterfaces_inRange {n : Int32} {nInterfaces : Nat}
    (inRange : 1 ≤ nInterfaces ∧ nInterfaces ≤ 4) :
    1 ≤ (setNInterfaces n nInterfaces).2 ∧ (setNInterfaces n nInterfaces).2 ≤ 4 := by
  unfold setNInterfaces
  split
  · exact inRange
  · next accepted =>
      rw [not_or] at accepted
      have low : ¬n.toInt < 1 := fun below => accepted.1 (Int32.lt_iff_toInt_lt.mpr below)
      have high : ¬4 < n.toInt := fun above => accepted.2 (Int32.lt_iff_toInt_lt.mpr above)
      constructor
      · change 1 ≤ n.toInt.toNat
        omega
      · change n.toInt.toNat ≤ 4
        omega

/-- `n_interfaces`, which only `set_n_interfaces` writes. -/
def interfaceCount : Machine Nat Int32 where
  step nInterfaces n := some (setNInterfaces n nInterfaces).2

/-- From its initial 1 the variable takes the values one to four and no other: these are
the numbers of interfaces the program can have. -/
theorem interfaceCount_iff {nInterfaces : Nat} :
    (∃ calls, interfaceCount.run 1 calls = some nInterfaces) ↔
      1 ≤ nInterfaces ∧ nInterfaces ≤ 4 := by
  constructor
  · rintro ⟨calls, runs⟩
    refine interfaceCount.run_invariant (fun count => 1 ≤ count ∧ count ≤ 4) ?_ (by decide) runs
    rintro count n next inRange ⟨⟩
    exact setNInterfaces_inRange inRange
  · intro inRange
    refine ⟨[Int32.ofNat nInterfaces], ?_⟩
    have value : (Int32.ofNat nInterfaces).toInt = nInterfaces :=
      Int32.toInt_ofNat_of_lt (by omega)
    have accepted : ¬(Int32.ofNat nInterfaces < 1 ∨ Int32.ofNat nInterfaces > 4) := by
      rw [not_or, GT.gt, Int32.lt_iff_toInt_lt, Int32.lt_iff_toInt_lt, value]
      constructor
      · change ¬(nInterfaces : Int) < 1
        omega
      · change ¬4 < (nInterfaces : Int)
        omega
    have set : (setNInterfaces (Int32.ofNat nInterfaces) 1).2 = nInterfaces := by
      rw [setNInterfaces, if_neg accepted, value]
      rfl
    exact congrArg some set

/-! ## Calls -/

section Calls

variable (os : Os K) (w : LegacyWorld K)

/-- The world after a call. -/
def LegacyWorld.after (call : Syscall) : LegacyWorld K :=
  { w with kernel := (os.serve w.kernel call).2 }

/-- Call the kernel and exit if it fails. -/
def ioctl (wrapper : Wrapper) (call : Syscall) : Handler K (Int32 × LegacyWorld K) :=
  match (os.serve w.kernel call).1.result with
  | .ok rv => .ok (rv, w.after os call)
  | .error _ => .error (.exit wrapper, w.after os call)

/-- The transfer as the kernel sees it, with the whole buffer. -/
def UsbRawControlEp0Io.toKernel (io : UsbRawControlEp0Io) : UsbRawControlEpIo where
  inner := io.inner
  data := ⟨io.data.toList, by simp⟩

/-- Receive the data stage of an OUT request. -/
def usbRawEp0Read (io : UsbRawControlEp0Io) : Handler K (Int32 × LegacyWorld K) :=
  ioctl os w .usbRawEp0Read (.ep0Read io.toKernel)

/-- Send the data stage of an IN request. -/
def usbRawEp0Write (io : UsbRawControlEp0Io) : Handler K (Int32 × LegacyWorld K) :=
  ioctl os w .usbRawEp0Write (.ep0Write io.toKernel)

/-- Enable an endpoint and return its handle. -/
def usbRawEpEnable (desc : UsbEndpointDescriptor) : Handler K (Int32 × LegacyWorld K) :=
  ioctl os w .usbRawEpEnable (.epEnable desc)

/-- Disable the endpoint of a handle. -/
def usbRawEpDisable (ep : Int32) : Handler K (Int32 × LegacyWorld K) :=
  ioctl os w .usbRawEpDisable (.epDisable ep)

/-- Tell the controller that the gadget is configured. -/
def usbRawConfigure : Handler K (Int32 × LegacyWorld K) :=
  ioctl os w .usbRawConfigure .configure

/-- Tell the controller the power that the gadget draws. -/
def usbRawVbusDraw (power : UInt32) : Handler K (Int32 × LegacyWorld K) :=
  ioctl os w .usbRawVbusDraw (.vbusDraw power)

/-- Stall the pending request. -/
def usbRawEp0Stall : Handler K (Int32 × LegacyWorld K) :=
  ioctl os w .usbRawEp0Stall .ep0Stall

end Calls

/-! ## Requests -/

abbrev stringIdManufacturer : UInt8 := 0x01
abbrev stringIdProduct : UInt8 := 0x02
abbrev stringIdSerial : UInt8 := 0x03
abbrev ep0MaxData : Nat := 16384

/-- Memory image of `usb_device`. -/
def usbDevice : List UInt8 :=
  [18, usbDtDevice, 0x00, 0x02, 0xFF, 0xFF, 0xFF, 64, 0x5E, 0x04, 0x8E, 0x02, 0x00, 0x00,
    stringIdManufacturer, stringIdProduct, stringIdSerial, 1]

/-- Memory image of `usb_qualifier`. -/
def usbQualifier : List UInt8 :=
  [10, usbDtDeviceQualifier, 0x00, 0x02, 0, 0, 0, 64, 1, 0]

/-- Copy bytes into the buffer from a position on. -/
def UsbRawControlEp0Io.writeAll (io : UsbRawControlEp0Io) (pos : Nat) :
    List UInt8 → Option UsbRawControlEp0Io
  | [] => some io
  | byte :: rest => (io.write pos byte).bind fun io => io.writeAll (pos + 1) rest

/-- Copy bytes to the front of the transfer and set its length. -/
def UsbRawControlEp0Io.fill (io : UsbRawControlEp0Io) (bytes : List UInt8) :
    Option UsbRawControlEp0Io :=
  (io.writeAll 0 bytes).map fun io =>
    { io with inner := { io.inner with length := UInt32.ofNat bytes.length } }

/-- A transfer, or the write past the buffer that stops the process. -/
def orOutOfBounds : Option UsbRawControlEp0Io → Except Stop UsbRawControlEp0Io
  | some io => .ok io
  | none => .error .outOfBounds

/-- `build_config` into the transfer. -/
def replyConfig (nInterfaces : Nat) (otherSpeed : Bool) (io : UsbRawControlEp0Io) :
    Except Stop UsbRawControlEp0Io :=
  match buildConfig nInterfaces ep0MaxData otherSpeed with
  | some bytes => orOutOfBounds (io.fill bytes)
  | none => .error .configLength

/-- The case USB_REQ_GET_DESCRIPTOR; each of its cases ends in `return true`. -/
def getDescriptor (nInterfaces : Nat) (value : UInt16) (io : UsbRawControlEp0Io) :
    Except Stop UsbRawControlEp0Io :=
  let descriptorType := (value >>> 8).toUInt8
  let index := value.toUInt8
  if descriptorType = usbDtDevice then orOutOfBounds (io.fill usbDevice)
  else if descriptorType = usbDtDeviceQualifier then orOutOfBounds (io.fill usbQualifier)
  else if descriptorType = usbDtConfig then replyConfig nInterfaces false io
  else if descriptorType = usbDtOtherSpeedConfig then replyConfig nInterfaces true io
  else if descriptorType = usbDtString then
    if index = 0 then
      orOutOfBounds (io.fill [4, usbDtString, 0x00, 0x00])
    else if index = stringIdManufacturer then
      orOutOfBounds (setUsbStringDesc (cBytes "©Microsoft Corporation") io)
    else if index = stringIdProduct then
      orOutOfBounds (setUsbStringDesc (cBytes "Xbox 360 Wireless Receiver for Windows") io)
    else if index = stringIdSerial then
      orOutOfBounds (setUsbStringDesc (cBytes "08FEC93") io)
    else
      .ok io
  else
    .ok io

/-- One round of the loop of SET_CONFIGURATION; both handles are dropped. -/
def enableInterface (os : Os K) (w : LegacyWorld K) (i : Nat) : Handler K (LegacyWorld K) := do
  let interfaceX := getIfX i
  let (_, w) ← usbRawEpEnable os w interfaceX.epIn
  let (_, w) ← usbRawEpEnable os w interfaceX.epOut
  .ok w

/-- The case USB_REQ_SET_CONFIGURATION. -/
def setConfiguration (os : Os K) (nInterfaces : Nat) (w : LegacyWorld K) :
    Handler K (LegacyWorld K) := do
  let w ← (List.range nInterfaces).foldlM (enableInterface os) w
  let (_, w) ← usbRawVbusDraw os { w with epIntEnabled := true } usbConfig.bMaxPower.toUInt32
  let (_, w) ← usbRawConfigure os w
  .ok w

/-- Handle a control request; `false` asks for a stall. -/
def ep0Request (os : Os K) (nInterfaces : Nat) (ctrl : UsbCtrlrequest) (io : UsbRawControlEp0Io)
    (w : LegacyWorld K) : Handler K (Bool × UsbRawControlEp0Io × LegacyWorld K) :=
  let typeBits := ctrl.bRequestType &&& usbTypeMask
  if typeBits = usbTypeStandard then
    if ctrl.bRequest = usbReqGetDescriptor then
      match getDescriptor nInterfaces ctrl.wValue io with
      | .ok io => .ok (true, io, w)
      | .error stop => .error (stop, w)
    else if ctrl.bRequest = usbReqSetConfiguration then do
      let w ← setConfiguration os nInterfaces w
      .ok (true, { io with inner := { io.inner with length := 0 } }, w)
    else if ctrl.bRequest = usbReqGetInterface then
      match io.fill [usbIfXinput.bAlternateSetting] with
      | some io => .ok (true, io, w)
      | none => .error (.outOfBounds, w)
    else
      .error (.unknownRequest, w)
  else if typeBits = usbTypeVendor then
    .ok (true, io, w)
  else
    .error (.unknownRequest, w)

/-! ## The loop -/

/-- What one iteration gets from outside: the event, what `EPS_INFO` answers if it
is asked, and what the stack holds where the transfer is placed. -/
structure Fetched where
  event : UsbRawControlEvent
  epsInfo : Except Errno UsbRawEpsInfo
  stack : Vector UInt8 16384

/-- The case of a CONNECT event. -/
def handleConnect (epsInfo : Except Errno UsbRawEpsInfo) (w : LegacyWorld K) :
    Handler K (LegacyWorld K) :=
  match epsInfo with
  | .error _ => .error (.exit .usbRawEpsInfo, w)
  | .ok info =>
      match processEpsInfo info w.addr with
      | .ok addr => .ok { w with addr }
      | .error assertion => .error (.survey assertion, w)

/-- One round of the loop of a RESET event. -/
def disableInterface (os : Os K) (w : LegacyWorld K) (i : Nat) : Handler K (LegacyWorld K) := do
  let interfaceX := getIfX i
  let epIntIn := Int32.ofNat (usbEndpointNum interfaceX.epIn).toNat
  let (_, w) ← usbRawEpDisable os w epIntIn
  let epIntOut := Int32.ofNat (usbEndpointNum interfaceX.epOut).toNat
  let (_, w) ← usbRawEpDisable os w epIntOut
  .ok w

/-- The case of a RESET event. -/
def handleReset (os : Os K) (nInterfaces : Nat) (w : LegacyWorld K) : Handler K (LegacyWorld K) :=
  if w.epIntEnabled then do
    let w ← (List.range nInterfaces).foldlM (disableInterface os) w
    .ok { w with epIntEnabled := false }
  else
    .ok w

/-- What follows `ep0_request`: a stall, or a transfer no longer than the host asked for. -/
def answer (os : Os K) (reply : Bool) (ctrl : UsbCtrlrequest) (io : UsbRawControlEp0Io)
    (w : LegacyWorld K) : Handler K (Int32 × LegacyWorld K) :=
  let io := if ctrl.wLength.toUInt32 < io.inner.length then
    { io with inner := { io.inner with length := ctrl.wLength.toUInt32 } } else io
  if ¬reply then usbRawEp0Stall os w
  else if ctrl.bRequestType &&& usbDirIn ≠ 0 then usbRawEp0Write os w io
  else usbRawEp0Read os w io

/-- The case of a control event. -/
def handleControl (os : Os K) (nInterfaces : Nat) (ctrl : UsbCtrlrequest)
    (stack : Vector UInt8 16384) (w : LegacyWorld K) : Handler K (LegacyWorld K) := do
  let io : UsbRawControlEp0Io := { inner := { ep := 0, flags := 0, length := 0 }, data := stack }
  let (reply, io, w) ← ep0Request os nInterfaces ctrl io w
  let (_, w) ← answer os reply ctrl io w
  .ok w

/-- One iteration of `ep0_loop` on a fetched event. -/
def ep0Iteration (os : Os K) (nInterfaces : Nat) (fetched : Fetched) (w : LegacyWorld K) :
    Handler K (LegacyWorld K) :=
  if fetched.event.typ = usbRawEventConnect then handleConnect fetched.epsInfo w
  else if fetched.event.typ = usbRawEventReset then handleReset os nInterfaces w
  else if fetched.event.typ = usbRawEventControl then
    handleControl os nInterfaces fetched.event.ctrl fetched.stack w
  else .ok w

/-- The loop: it fetches events until one stops the process. -/
def legacy (os : Os K) (nInterfaces : Nat) : Machine (Handler K (LegacyWorld K)) Fetched where
  step
    | .ok w, fetched => some (ep0Iteration os nInterfaces fetched w)
    | .error _, _ => none

end X360Gadget.Legacy
