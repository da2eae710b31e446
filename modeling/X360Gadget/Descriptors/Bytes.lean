import X360Gadget.Descriptors.Config
import X360Gadget.Std.Utf16

/-!
# Descriptor blobs

`buildDescriptorBytes` prepares, once for each configuration, every blob the
ep0 thread serves to `GET_DESCRIPTOR`.
-/

namespace X360Gadget.Descriptors

open X360Gadget.Std.Utf16

/-- The blobs handed to the ep0 thread. -/
structure DescriptorBytes where
  device : List UInt8
  qualifier : List UInt8
  config : List UInt8
  stringLang : List UInt8
  stringManufacturer : Option (List UInt8)
  stringProduct : Option (List UInt8)
  stringSerial : Option (List UInt8)
deriving DecidableEq, Repr

/-- Encode a string as a descriptor: a two-byte header, then UTF-16LE. The
length byte keeps the low eight bits of the length. -/
def encodeStringDescriptor (s : String) : List UInt8 :=
  let utf16 := encodeUtf16 s.toList
  let byteLen := 2 + utf16.length * 2
  UInt8.ofNat byteLen :: 0x03 :: utf16.flatMap toLeBytes

/-- Device descriptor. -/
def deviceDescriptor (identity : ReceiverIdentity) : List UInt8 :=
  [0x12, 0x01, 0x00, 0x02, 0xFF, 0xFF, 0xFF, 0x40] ++
    toLeBytes identity.vendorId ++ toLeBytes identity.productId ++
    [0x00, 0x00,
      0x01, -- iManufacturer
      0x02, -- iProduct
      0x03, -- iSerialNumber
      0x01]

/-- Device qualifier. -/
def qualifierDescriptor : List UInt8 :=
  [0x0A, 0x06, 0x00, 0x02, 0x00, 0x00, 0x00, 0x40, 0x01, 0x00]

/-- Configuration descriptor header for `n` interfaces. -/
def configHeader (n : Nat) : List UInt8 :=
  [0x09, 0x02] ++ toLeBytes (UInt16.ofNat (9 + n * 43)) ++ [UInt8.ofNat n, 0x01, 0x00, 0xA0, 0xFA]

/-- Interface descriptor of slot `i`. -/
def interfaceDescriptor (i : Nat) : List UInt8 :=
  [0x09, 0x04, UInt8.ofNat i, 0x00, 0x02, 0xFF, 0x5D, 0x01, 0x00]

/-- Vendor descriptor naming both endpoint addresses of a slot. -/
def vendorDescriptor (epInAddr epOutAddr : UInt8) : List UInt8 :=
  [0x14, 0x22, 0x00, 0x01, 0x13, epInAddr, 0x1D, 0x00, 0x17, 0x01, 0x02, 0x08, 0x13, epOutAddr,
    0x0C, 0x00, 0x0C, 0x01, 0x02, 0x08]

/-- Interrupt endpoint descriptor inside the configuration blob. -/
def endpointDescriptor (address interval : UInt8) : List UInt8 :=
  [0x07, 0x05, address, 0x03] ++ toLeBytes 0x0020 ++ [interval]

/-- The four descriptors that slot `i` adds to the configuration blob. -/
def slotDescriptors (i : Nat) : List (List UInt8) :=
  let epInAddr := 0x80 ||| (UInt8.ofNat i + 1)
  let epOutAddr := UInt8.ofNat i + 1
  [interfaceDescriptor i, vendorDescriptor epInAddr epOutAddr,
    endpointDescriptor epInAddr 0x04, endpointDescriptor epOutAddr 0x08]

/-- Configuration blob: the header, then four descriptors for each slot. -/
def configBlob (n : Nat) : List UInt8 :=
  configHeader n ++ (List.range n).flatMap fun i => (slotDescriptors i).flatten

/-- Prepare every blob of a configuration. -/
def buildDescriptorBytes (config : ConfigDescriptorSet) : DescriptorBytes where
  device := deviceDescriptor config.identity
  qualifier := qualifierDescriptor
  config := configBlob config.numInterfaces.toNat
  stringLang := [0x04, 0x03, 0x09, 0x04]
  stringManufacturer := (config.strings.get 1).map encodeStringDescriptor
  stringProduct := (config.strings.get 2).map encodeStringDescriptor
  stringSerial := (config.strings.get 3).map encodeStringDescriptor

/-- The blob behind a string index. -/
def DescriptorBytes.stringData (desc : DescriptorBytes) (index : UInt8) : Option (List UInt8) :=
  match index.toNat with
  | 0 => some desc.stringLang
  | 1 => desc.stringManufacturer
  | 2 => desc.stringProduct
  | 3 => desc.stringSerial
  | _ => none

/-! ## Lengths -/

@[simp] theorem length_encodeStringDescriptor (s : String) :
    (encodeStringDescriptor s).length = 2 + 2 * (encodeUtf16 s.toList).length := by
  simp only [encodeStringDescriptor, List.length_cons, length_flatMap_toLeBytes]
  omega

@[simp] theorem length_deviceDescriptor (identity : ReceiverIdentity) :
    (deviceDescriptor identity).length = 18 := rfl

@[simp] theorem length_configHeader (n : Nat) : (configHeader n).length = 9 := rfl

@[simp] theorem length_flatten_slotDescriptors (i : Nat) :
    (slotDescriptors i).flatten.length = 43 := rfl

/-- The blob grows by 43 bytes for each interface. -/
@[simp] theorem length_configBlob (n : Nat) : (configBlob n).length = 9 + n * 43 := by
  have slots : ((List.range n).flatMap fun i => (slotDescriptors i).flatten).length = n * 43 := by
    simp only [List.length_flatMap, length_flatten_slotDescriptors]
    simp
  rw [configBlob, List.length_append, length_configHeader, slots]

end X360Gadget.Descriptors
