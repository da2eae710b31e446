/-!
# The raw-gadget ioctl interface

Constants, argument structures and result conventions of `/dev/raw-gadget`. The
kernel and the thread library are a parameter: an `Os` answers each `Syscall`
from a state of its own, so a statement about every `Os` is a statement about
arbitrary results.
-/

namespace X360Gadget.Kernel

/-! ## Event types -/

abbrev usbRawEventConnect : UInt32 := 1
abbrev usbRawEventControl : UInt32 := 2
abbrev usbRawEventReset : UInt32 := 5
abbrev usbRawEventDisconnect : UInt32 := 6

/-! ## Standard request constants -/

abbrev usbDirIn : UInt8 := 0x80
abbrev usbTypeStandard : UInt8 := 0x00
abbrev usbTypeVendor : UInt8 := 0x40
abbrev usbTypeMask : UInt8 := 0x60
abbrev usbReqGetDescriptor : UInt8 := 0x06
abbrev usbReqSetConfiguration : UInt8 := 0x09
abbrev usbReqGetInterface : UInt8 := 0x0A
abbrev usbDtDevice : UInt8 := 0x01
abbrev usbDtConfig : UInt8 := 0x02
abbrev usbDtString : UInt8 := 0x03
abbrev usbDtDeviceQualifier : UInt8 := 0x06
abbrev usbEndpointXferInt : UInt8 := 0x03

/-! ## Error numbers -/

/-- An error number as `raw_os_error` reports it. -/
abbrev Errno := Int32

abbrev eintr : Errno := 4
abbrev eagain : Errno := 11

/-! ## Structures -/

/-- A control request; the 16-bit fields hold the values decoded from little-endian. -/
structure UsbCtrlrequest where
  bRequestType : UInt8
  bRequest : UInt8
  wValue : UInt16
  wIndex : UInt16
  wLength : UInt16
deriving DecidableEq, Repr

/-- A fetched event; `ctrl` is meaningful only for control events. -/
structure UsbRawControlEvent where
  typ : UInt32
  ctrl : UsbCtrlrequest
deriving DecidableEq, Repr

/-- The host selects a configuration. -/
def UsbRawControlEvent.setConfiguration (value : UInt16) : UsbRawControlEvent where
  typ := usbRawEventControl
  ctrl := { bRequestType := 0x00, bRequest := usbReqSetConfiguration, wValue := value,
            wIndex := 0, wLength := 0 }

/-- The host resets the bus. -/
def UsbRawControlEvent.reset : UsbRawControlEvent where
  typ := usbRawEventReset
  ctrl := { bRequestType := 0, bRequest := 0, wValue := 0, wIndex := 0, wLength := 0 }

/-- A zeroed `[u8; capacity]` array of which a prefix was overwritten. -/
structure IoBuffer (capacity : Nat) where
  written : List UInt8
  bounded : written.length ≤ capacity
deriving DecidableEq, Repr

namespace IoBuffer

variable {capacity : Nat}

/-- The all-zero array. -/
def zeroed : IoBuffer capacity := ⟨[], Nat.zero_le _⟩

/-- The whole array. -/
def bytes (buffer : IoBuffer capacity) : List UInt8 :=
  buffer.written ++ List.replicate (capacity - buffer.written.length) 0

/-- `data[..count].copy_from_slice(&source[..count])` on a zeroed array; either
slice may be out of range. -/
def copyPrefix? (source : List UInt8) (count : Nat) : Option (IoBuffer capacity) :=
  if fits : count ≤ capacity ∧ count ≤ source.length then
    some ⟨source.take count, by simp; omega⟩
  else
    none

@[simp] theorem length_bytes (buffer : IoBuffer capacity) : buffer.bytes.length = capacity := by
  have bounded := buffer.bounded
  simp [bytes]
  omega

/-- Copying a whole source that fits puts it at the front of the array. -/
theorem take_bytes_of_copyPrefix? {source : List UInt8} {count : Nat}
    {buffer : IoBuffer capacity} (copied : copyPrefix? source count = some buffer) :
    buffer.bytes.take count = source.take count := by
  unfold copyPrefix? at copied
  split at copied
  · next fits =>
      cases copied
      have exact : (source.take count).length = count := by simp [fits.2]
      simp only [bytes]
      rw [List.take_append_of_le_length (by omega), List.take_of_length_le (by omega)]
  · cases copied

end IoBuffer

/-- Header of an endpoint transfer. -/
structure UsbRawEpIo where
  ep : UInt16
  flags : UInt16
  length : UInt32
deriving DecidableEq, Repr

/-- Endpoint-zero transfer with a 16 KiB buffer. -/
structure UsbRawControlEpIo where
  inner : UsbRawEpIo
  data : IoBuffer 16384
deriving DecidableEq, Repr

/-- Interrupt endpoint transfer with a 32-byte buffer. -/
structure UsbRawInterruptEpIo where
  inner : UsbRawEpIo
  data : IoBuffer 32
deriving DecidableEq, Repr

/-- Endpoint-zero transfer of `length` bytes, other header fields zero. -/
def UsbRawControlEpIo.ofLength (length : UInt32) (data : IoBuffer 16384) : UsbRawControlEpIo where
  inner := { ep := 0, flags := 0, length }
  data

/-- Endpoint descriptor as the packed structure `EP_ENABLE` takes. -/
structure UsbEndpointDescriptor where
  bLength : UInt8
  bDescriptorType : UInt8
  bEndpointAddress : UInt8
  bmAttributes : UInt8
  wMaxPacketSize : UInt16
  bInterval : UInt8
  bRefresh : UInt8
  bSynchAddress : UInt8
deriving DecidableEq, Repr

/-- An interrupt endpoint descriptor. -/
def UsbEndpointDescriptor.interrupt (address : UInt8) (maxPacket : UInt16) (interval : UInt8) :
    UsbEndpointDescriptor where
  bLength := 7
  bDescriptorType := 0x05
  bEndpointAddress := address
  bmAttributes := usbEndpointXferInt
  wMaxPacketSize := maxPacket
  bInterval := interval
  bRefresh := 0
  bSynchAddress := 0

/-- Memory image of the packed structure. -/
def UsbEndpointDescriptor.toBytes (desc : UsbEndpointDescriptor) : List UInt8 :=
  [desc.bLength, desc.bDescriptorType, desc.bEndpointAddress, desc.bmAttributes,
    UInt8.ofNat desc.wMaxPacketSize.toNat, UInt8.ofNat (desc.wMaxPacketSize.toNat / 256),
    desc.bInterval, desc.bRefresh, desc.bSynchAddress]

/-- Endpoint numbers up to 127 fit beside the direction bit. -/
theorem toNat_outAddress {i : Nat} (bound : i < 127) : (UInt8.ofNat i + 1).toNat = i + 1 := by
  rw [UInt8.toNat_add, UInt8.toNat_ofNat']
  change (i % 256 + 1) % 256 = i + 1
  omega

/-- The direction bit and an endpoint number up to 127 do not overlap. -/
theorem toNat_inAddress {i : Nat} (bound : i < 127) :
    (usbDirIn ||| (UInt8.ofNat i + 1)).toNat = 129 + i := by
  have disjoint : 2 ^ 7 * 1 ||| (i + 1) = 2 ^ 7 * 1 + (i + 1) :=
    (Nat.two_pow_add_eq_or_of_lt (by omega : i + 1 < 2 ^ 7) 1).symm
  rw [UInt8.toNat_or, toNat_outAddress bound]
  change 2 ^ 7 * 1 ||| (i + 1) = 129 + i
  rw [disjoint]
  omega

/-! ## Calls -/

/-- A request to the kernel or the thread library. -/
inductive Syscall where
  | ep0Write (io : UsbRawControlEpIo)
  | ep0Read (io : UsbRawControlEpIo)
  | ep0Stall
  | epEnable (desc : UsbEndpointDescriptor)
  | epDisable (ep : Int32)
  | vbusDraw (power : UInt32)
  | configure
  | epWrite (io : UsbRawInterruptEpIo)
  /-- Start an `ep_out_loop` thread. -/
  | spawnEpOut (slot : UInt8) (epHandle : Int32)
deriving DecidableEq, Repr

/-- Return value of a call and the error number left behind. -/
structure SyscallReply where
  rv : Int32
  errno : Errno
deriving DecidableEq, Repr

/-- The convention of every wrapper: a negative return value is an error. -/
def SyscallReply.result (reply : SyscallReply) : Except Errno Int32 :=
  if reply.rv < 0 then .error reply.errno else .ok reply.rv

/-- Kernel and thread library: they answer each call and move to a next state. -/
structure Os (K : Type) where
  serve : K → Syscall → SyscallReply × K

/-- Every call succeeds and returns the next number. -/
def Os.counting : Os Int32 where
  serve next _ := ({ rv := next, errno := 0 }, next + 1)

end X360Gadget.Kernel
