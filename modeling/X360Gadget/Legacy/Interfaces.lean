import X360Gadget.Descriptors.Bytes
import X360Gadget.Kernel.RawGadget

/-!
# Interfaces of the C gadget

`get_if_x` numbers the template descriptors and `build_config` lays them out.
The configuration that results is the one the Rust port serves. Endpoint numbers
have four bits, so `get_if_x` comes back to number zero at the sixteenth
interface.
-/

namespace X360Gadget.Legacy

open X360Gadget.Descriptors X360Gadget.Kernel

/-! ## Descriptors -/

abbrev usbDirOut : UInt8 := 0x00
abbrev usbDtOtherSpeedConfig : UInt8 := 0x07
abbrev usbDtInterface : UInt8 := 0x04
abbrev usbDtEndpointSize : Nat := 7

/-- `struct usb_config_descriptor`. -/
structure UsbConfigDescriptor where
  bLength : UInt8
  bDescriptorType : UInt8
  wTotalLength : UInt16
  bNumInterfaces : UInt8
  bConfigurationValue : UInt8
  iConfiguration : UInt8
  bmAttributes : UInt8
  bMaxPower : UInt8
deriving DecidableEq, Repr

/-- `struct usb_interface_descriptor`. -/
structure UsbInterfaceDescriptor where
  bLength : UInt8
  bDescriptorType : UInt8
  bInterfaceNumber : UInt8
  bAlternateSetting : UInt8
  bNumEndpoints : UInt8
  bInterfaceClass : UInt8
  bInterfaceSubClass : UInt8
  bInterfaceProtocol : UInt8
  iInterface : UInt8
deriving DecidableEq, Repr

/-- `struct if_unknown_desc_control_surface`. -/
structure IfUnknownDescControlSurface where
  bLength : UInt8
  bDescriptorType : UInt8
  unknown1 : UInt8
  unknown2 : UInt8
  unknown3 : UInt8
  bEndpointAddressIn : UInt8
  unknown5 : UInt8
  unknown6 : UInt8
  unknown7 : UInt8
  unknown8 : UInt8
  unknown9 : UInt8
  unknown10 : UInt8
  unknown11 : UInt8
  bEndpointAddressOut : UInt8
  unknown13 : UInt8
  unknown14 : UInt8
  unknown15 : UInt8
  unknown16 : UInt8
  unknown17 : UInt8
  unknown18 : UInt8
deriving DecidableEq, Repr

/-- Everything that belongs to one interface. -/
structure IfFullStruct where
  interface : UsbInterfaceDescriptor
  ud : IfUnknownDescControlSurface
  epIn : UsbEndpointDescriptor
  epOut : UsbEndpointDescriptor
deriving DecidableEq, Repr

/-! ### Memory images -/

/-- The packed bytes of the configuration descriptor. -/
def UsbConfigDescriptor.toBytes (desc : UsbConfigDescriptor) : List UInt8 :=
  [desc.bLength, desc.bDescriptorType, UInt8.ofNat desc.wTotalLength.toNat,
    UInt8.ofNat (desc.wTotalLength.toNat / 256), desc.bNumInterfaces, desc.bConfigurationValue,
    desc.iConfiguration, desc.bmAttributes, desc.bMaxPower]

/-- The packed bytes of an interface descriptor. -/
def UsbInterfaceDescriptor.toBytes (desc : UsbInterfaceDescriptor) : List UInt8 :=
  [desc.bLength, desc.bDescriptorType, desc.bInterfaceNumber, desc.bAlternateSetting,
    desc.bNumEndpoints, desc.bInterfaceClass, desc.bInterfaceSubClass, desc.bInterfaceProtocol,
    desc.iInterface]

/-- The packed bytes of the vendor descriptor of a controller. -/
def IfUnknownDescControlSurface.toBytes (desc : IfUnknownDescControlSurface) : List UInt8 :=
  [desc.bLength, desc.bDescriptorType, desc.unknown1, desc.unknown2, desc.unknown3,
    desc.bEndpointAddressIn, desc.unknown5, desc.unknown6, desc.unknown7, desc.unknown8,
    desc.unknown9, desc.unknown10, desc.unknown11, desc.bEndpointAddressOut, desc.unknown13,
    desc.unknown14, desc.unknown15, desc.unknown16, desc.unknown17, desc.unknown18]

/-! ### Templates -/

/-- The configuration descriptor, before its total length is filled in. -/
def usbConfig : UsbConfigDescriptor where
  bLength := 9
  bDescriptorType := usbDtConfig
  wTotalLength := 0
  bNumInterfaces := 0x00
  bConfigurationValue := 1
  iConfiguration := 0x00
  bmAttributes := 0xA0
  bMaxPower := 0xFA

/-- The interface of a controller, before its number is filled in. -/
def usbIfXinput : UsbInterfaceDescriptor where
  bLength := 9
  bDescriptorType := usbDtInterface
  bInterfaceNumber := 0x00
  bAlternateSetting := 0x00
  bNumEndpoints := 0x02
  bInterfaceClass := 0xFF
  bInterfaceSubClass := 0x5D
  bInterfaceProtocol := 0x01
  iInterface := 0x00

/-- The vendor descriptor of a controller, before its addresses are filled in. -/
def ifUd : IfUnknownDescControlSurface where
  bLength := 0x14
  bDescriptorType := 0x22
  unknown1 := 0x00
  unknown2 := 0x01
  unknown3 := 0x13
  bEndpointAddressIn := 0x81
  unknown5 := 0x1D
  unknown6 := 0x00
  unknown7 := 0x17
  unknown8 := 0x01
  unknown9 := 0x02
  unknown10 := 0x08
  unknown11 := 0x13
  bEndpointAddressOut := 0x01
  unknown13 := 0x0C
  unknown14 := 0x00
  unknown15 := 0x0C
  unknown16 := 0x01
  unknown17 := 0x02
  unknown18 := 0x08

/-- The IN endpoint of a controller, before its address is filled in. -/
def usbEpIn : UsbEndpointDescriptor := .interrupt (usbDirIn ||| 0x01) 0x0020 0x04

/-- The OUT endpoint of a controller, before its address is filled in. -/
def usbEpOut : UsbEndpointDescriptor := .interrupt (usbDirOut ||| 0x01) 0x0020 0x08

/-- The interface with number `n`; the assignments keep the low eight bits. -/
def getIfX (n : Nat) : IfFullStruct where
  interface := { usbIfXinput with bInterfaceNumber := UInt8.ofNat n }
  ud :=
    { ifUd with
      bEndpointAddressIn := usbDirIn ||| UInt8.ofNat (n + 1)
      bEndpointAddressOut := usbDirOut ||| UInt8.ofNat (n + 1) }
  epIn := { usbEpIn with bEndpointAddress := usbDirIn ||| UInt8.ofNat (n + 1) }
  epOut := { usbEpOut with bEndpointAddress := usbDirOut ||| UInt8.ofNat (n + 1) }

/-! ## The configuration blob -/

/-- `assert` that a piece fits and copy it behind the data. -/
def put (length : Nat) (data piece : List UInt8) : Option (List UInt8) :=
  if data.length + piece.length ≤ length then some (data ++ piece) else none

/-- One round of the loop of `build_config`. -/
def putInterface (length : Nat) (data : List UInt8) (i : Nat) : Option (List UInt8) := do
  let interfaceX := getIfX i
  let data ← put length data interfaceX.interface.toBytes
  let data ← put length data interfaceX.ud.toBytes
  let data ← put length data (interfaceX.epIn.toBytes.take usbDtEndpointSize)
  put length data (interfaceX.epOut.toBytes.take usbDtEndpointSize)

/-- Build the configuration in `length` bytes; its head is rewritten at the end. -/
def buildConfig (nInterfaces length : Nat) (otherSpeed : Bool) : Option (List UInt8) := do
  let data ← put length [] usbConfig.toBytes
  let data ← (List.range nInterfaces).foldlM (putInterface length) data
  let config :=
    { usbConfig with
      bNumInterfaces := UInt8.ofNat nInterfaces
      wTotalLength := UInt16.ofNat data.length
      bDescriptorType := if otherSpeed then usbDtOtherSpeedConfig else usbDtConfig }
  some (config.toBytes ++ data.drop usbConfig.toBytes.length)

/-- A piece that fits is appended. -/
theorem put_eq {length : Nat} {data piece : List UInt8}
    (fits : data.length + piece.length ≤ length) : put length data piece = some (data ++ piece) :=
  if_pos fits

/-- The four pieces of an interface are those of its slot in the Rust port. -/
theorem toBytes_getIfX (i : Nat) :
    [(getIfX i).interface.toBytes, (getIfX i).ud.toBytes,
      (getIfX i).epIn.toBytes.take usbDtEndpointSize,
      (getIfX i).epOut.toBytes.take usbDtEndpointSize] = slotDescriptors i := by
  have number : UInt8.ofNat (i + 1) = UInt8.ofNat i + 1 := UInt8.ofNat_add i 1
  have outAddress : usbDirOut ||| (UInt8.ofNat i + 1) = UInt8.ofNat i + 1 := UInt8.zero_or
  simp only [getIfX, number, outAddress]
  rfl

/-- A round of the loop appends the descriptors of one slot. -/
theorem putInterface_eq {length i : Nat} {data : List UInt8} (fits : data.length + 43 ≤ length) :
    putInterface length data i = some (data ++ (slotDescriptors i).flatten) := by
  have interface : (getIfX i).interface.toBytes.length = 9 := rfl
  have ud : (getIfX i).ud.toBytes.length = 20 := rfl
  have epIn : ((getIfX i).epIn.toBytes.take usbDtEndpointSize).length = 7 := rfl
  have epOut : ((getIfX i).epOut.toBytes.take usbDtEndpointSize).length = 7 := rfl
  simp only [putInterface, Option.bind_eq_bind]
  rw [← toBytes_getIfX, put_eq (by omega), Option.bind_some,
    put_eq (by rw [List.length_append]; omega), Option.bind_some,
    put_eq (by simp only [List.length_append]; omega), Option.bind_some,
    put_eq (by simp only [List.length_append]; omega)]
  simp only [List.flatten_cons, List.flatten_nil, List.append_nil, List.append_assoc]

/-- All rounds append the descriptors of all slots. -/
theorem foldlM_putInterface {length : Nat} {slots : List Nat} {data : List UInt8}
    (fits : data.length + slots.length * 43 ≤ length) :
    slots.foldlM (putInterface length) data =
      some (data ++ slots.flatMap fun i => (slotDescriptors i).flatten) := by
  induction slots generalizing data with
  | nil =>
      rw [List.foldlM_nil, List.flatMap_nil, List.append_nil]
      rfl
  | cons i rest ih =>
      rw [List.length_cons] at fits
      have later : (data ++ (slotDescriptors i).flatten).length + rest.length * 43 ≤ length := by
        rw [List.length_append, length_flatten_slotDescriptors]
        omega
      rw [List.foldlM_cons, putInterface_eq (by omega), Option.bind_eq_bind, Option.bind_some,
        ih later, List.flatMap_cons, List.append_assoc]

/-- Where it fits, the C configuration is the blob of the Rust port. -/
theorem buildConfig_eq_configBlob {n length : Nat} (fits : 9 + n * 43 ≤ length) :
    buildConfig n length false = some (configBlob n) := by
  have header : usbConfig.toBytes.length = 9 := rfl
  have room : usbConfig.toBytes.length + (List.range n).length * 43 ≤ length := by
    rw [header, List.length_range]
    exact fits
  have total : (usbConfig.toBytes ++
      (List.range n).flatMap fun i => (slotDescriptors i).flatten).length = 9 + n * 43 :=
    length_configBlob n
  have start : put length [] usbConfig.toBytes = some usbConfig.toBytes :=
    put_eq (by rw [List.length_nil, header]; omega)
  simp only [buildConfig, Option.bind_eq_bind]
  rw [start, Option.bind_some, foldlM_putInterface room, Option.bind_some, total, List.drop_left]
  rfl

/-! ## Endpoint numbers -/

/-- The low four bits of the address. -/
def usbEndpointNum (ep : UsbEndpointDescriptor) : UInt8 := ep.bEndpointAddress &&& 0x0F

/-- The IN endpoint has the number of its interface plus one, modulo sixteen. -/
theorem toNat_usbEndpointNum_epIn (n : Nat) :
    (usbEndpointNum (getIfX n).epIn).toNat = (n + 1) % 16 := by
  have masked : (usbEndpointNum (getIfX n).epIn).toNat =
      (128 ||| (n + 1) % 256) &&& (2 ^ 4 - 1) := by
    simp only [usbEndpointNum, getIfX, UInt8.toNat_and, UInt8.toNat_or, UInt8.toNat_ofNat']
    rfl
  rw [masked, Nat.and_two_pow_sub_one_eq_mod, Nat.or_mod_two_pow]
  change 0 ||| (n + 1) % 256 % 16 = (n + 1) % 16
  rw [Nat.zero_or]
  omega

/-- The two endpoints of an interface share their number. -/
theorem usbEndpointNum_epOut (n : Nat) :
    usbEndpointNum (getIfX n).epOut = usbEndpointNum (getIfX n).epIn := by
  have masked : (usbEndpointNum (getIfX n).epOut).toNat = (n + 1) % 256 &&& (2 ^ 4 - 1) := by
    simp only [usbEndpointNum, getIfX, UInt8.zero_or, UInt8.toNat_and, UInt8.toNat_ofNat']
    rfl
  rw [← UInt8.toNat_inj, toNat_usbEndpointNum_epIn, masked, Nat.and_two_pow_sub_one_eq_mod]
  omega

end X360Gadget.Legacy
