/-!
# Receiver identity and configuration

`ConfigDescriptorSet.new` accepts one to four interfaces and `withSerial`
replaces the serial number in the identity and in the string map.
`ConfigDescriptorSet.Built` collects the configurations these two can produce;
its lemmas say that the map and the identity never drift apart.
-/

namespace X360Gadget.Descriptors

/-- Errors of constructing or querying descriptors. -/
inductive DescriptorError where
  | invalidInterfaceCount (count : UInt8)
  | stringNotFound (id : UInt8)
deriving DecidableEq, Repr

abbrev usbVendor : UInt16 := 0x045e
abbrev usbProduct : UInt16 := 0x028e

/-- Identity strings and numbers presented to the host. -/
structure ReceiverIdentity where
  vendorId : UInt16
  productId : UInt16
  manufacturer : String
  productName : String
  serial : String
deriving DecidableEq, Repr

/-- The identity of a real wireless receiver. -/
def ReceiverIdentity.default : ReceiverIdentity where
  vendorId := usbVendor
  productId := usbProduct
  manufacturer := "©Microsoft Corporation"
  productName := "Xbox 360 Wireless Receiver for Windows"
  serial := "08FEC93"

/-- The string map, by its lookup function. -/
def StringDescriptorMap := UInt8 → Option String

namespace StringDescriptorMap

/-- No string is replaced. -/
def new : StringDescriptorMap := fun _ => none

/-- Replace the string of an index. -/
def insert (map : StringDescriptorMap) (id : UInt8) (value : String) : StringDescriptorMap :=
  fun other => if other = id then some value else map other

/-- The string that replaces that of an index. -/
def get (map : StringDescriptorMap) (id : UInt8) : Option String := map id

@[simp] theorem get_insert (map : StringDescriptorMap) (id other : UInt8) (value : String) :
    (map.insert id value).get other = if other = id then some value else map.get other := rfl

end StringDescriptorMap

/-- Full configuration of the emulated receiver. -/
structure ConfigDescriptorSet where
  identity : ReceiverIdentity
  numInterfaces : UInt8
  strings : StringDescriptorMap

namespace ConfigDescriptorSet

/-- A configuration with one to four controller slots. -/
def new (numInterfaces : UInt8) : Except DescriptorError ConfigDescriptorSet :=
  if ¬(1 ≤ numInterfaces ∧ numInterfaces ≤ 4) then
    .error (.invalidInterfaceCount numInterfaces)
  else
    let identity := ReceiverIdentity.default
    .ok {
      identity
      numInterfaces
      strings := ((StringDescriptorMap.new.insert 0x01 identity.manufacturer).insert 0x02
        identity.productName).insert 0x03 identity.serial }

/-- Replace the serial number. -/
def withSerial (self : ConfigDescriptorSet) (serial : String) : ConfigDescriptorSet :=
  { self with
    strings := self.strings.insert 0x03 serial
    identity := { self.identity with serial } }

@[simp] theorem withSerial_identity (self : ConfigDescriptorSet) (serial : String) :
    (self.withSerial serial).identity = { self.identity with serial } := rfl

@[simp] theorem withSerial_numInterfaces (self : ConfigDescriptorSet) (serial : String) :
    (self.withSerial serial).numInterfaces = self.numInterfaces := rfl

@[simp] theorem withSerial_strings (self : ConfigDescriptorSet) (serial : String) :
    (self.withSerial serial).strings = self.strings.insert 0x03 serial := rfl

/-- Look up a string by its index. -/
def string (self : ConfigDescriptorSet) (id : UInt8) : Except DescriptorError String :=
  match self.strings.get id with
  | some value => .ok value
  | none => .error (.stringNotFound id)

/-- The configurations reachable from `new` by calls of `withSerial`, with the
serial numbers passed so far, oldest first. -/
inductive Built : UInt8 → List String → ConfigDescriptorSet → Prop where
  | fresh {count config} (accepted : new count = .ok config) : Built count [] config
  | renamed {count serials config} (built : Built count serials config) (serial : String) :
      Built count (serials ++ [serial]) (config.withSerial serial)

/-- An accepted interface count is between one and four. -/
theorem new_eq_ok_iff {count : UInt8} {config : ConfigDescriptorSet} :
    new count = .ok config ↔ (1 ≤ count ∧ count ≤ 4) ∧
      config = {
        identity := ReceiverIdentity.default
        numInterfaces := count
        strings := ((StringDescriptorMap.new.insert 0x01
          ReceiverIdentity.default.manufacturer).insert 0x02
            ReceiverIdentity.default.productName).insert 0x03
              ReceiverIdentity.default.serial } := by
  unfold new
  by_cases accepted : 1 ≤ count ∧ count ≤ 4
  · simp only [accepted, and_self, not_true_eq_false, if_false, true_and, Except.ok.injEq]
    exact eq_comm
  · simp [accepted]

/-- What every built configuration satisfies. -/
structure WellFormed (count : UInt8) (serial : String) (config : ConfigDescriptorSet) : Prop where
  accepted : 1 ≤ count ∧ count ≤ 4
  numInterfaces : config.numInterfaces = count
  vendorId : config.identity.vendorId = usbVendor
  productId : config.identity.productId = usbProduct
  manufacturer : config.identity.manufacturer = ReceiverIdentity.default.manufacturer
  productName : config.identity.productName = ReceiverIdentity.default.productName
  serial : config.identity.serial = serial
  manufacturerString : config.strings.get 1 = some config.identity.manufacturer
  productString : config.strings.get 2 = some config.identity.productName
  serialString : config.strings.get 3 = some config.identity.serial

/-- The serial of a built configuration is the one set last, and every string
index of the device descriptor maps to its identity string. -/
theorem Built.wellFormed {count : UInt8} {serials : List String} {config : ConfigDescriptorSet}
    (built : Built count serials config) :
    WellFormed count (serials.getLastD ReceiverIdentity.default.serial) config := by
  induction built with
  | fresh accepted =>
      obtain ⟨range, rfl⟩ := new_eq_ok_iff.mp accepted
      constructor <;> first | exact range | rfl
  | renamed built serial ih =>
      exact {
        accepted := ih.accepted
        numInterfaces := ih.numInterfaces
        vendorId := ih.vendorId
        productId := ih.productId
        manufacturer := ih.manufacturer
        productName := ih.productName
        serial := by simp
        manufacturerString := by simpa using ih.manufacturerString
        productString := by simpa using ih.productString
        serialString := by simp }

/-- `string` finds the identity string behind each index of the device descriptor. -/
theorem Built.string_eq {count : UInt8} {serials : List String} {config : ConfigDescriptorSet}
    (built : Built count serials config) :
    config.string 1 = .ok config.identity.manufacturer ∧
      config.string 2 = .ok config.identity.productName ∧
      config.string 3 = .ok config.identity.serial := by
  have wellFormed := built.wellFormed
  simp [string, wellFormed.manufacturerString, wellFormed.productString, wellFormed.serialString]

end ConfigDescriptorSet

/-- The configuration of one slot. -/
def oneSlot : ConfigDescriptorSet := (ConfigDescriptorSet.new 1).toOption.get rfl

/-- The configuration of four slots. -/
def fourSlots : ConfigDescriptorSet := (ConfigDescriptorSet.new 4).toOption.get rfl

end X360Gadget.Descriptors
