import X360Gadget.Descriptors.Bytes

/-!
# What the served strings decode to

A string descriptor carries its length in one byte. `encodeStringDescriptor`
narrows the length to that byte, so the descriptor reads back as the encoded
string exactly when its UTF-16 form has at most 126 code units.
-/

namespace X360Gadget.Descriptors

open X360Gadget.Std.Utf16 ConfigDescriptorSet

/-- The descriptor states its own length, has the string type, and its payload
up to the stated length is the UTF-16LE form of `text`. -/
def DecodesTo (d : List UInt8) (text : String) : Prop :=
  ∃ length, d[0]? = some length ∧ length.toNat = d.length ∧ d[1]? = some 0x03 ∧
    decodeUtf16Le ((d.take length.toNat).drop 2) = some text.toList

/-- The string indices of the device descriptor with the identity strings they stand for. -/
def namedStrings (config : ConfigDescriptorSet) : List (UInt8 × String) :=
  (((buildDescriptorBytes config).device.drop 14).take 3).zip
    [config.identity.manufacturer, config.identity.productName, config.identity.serial]

@[simp] theorem namedStrings_eq (config : ConfigDescriptorSet) :
    namedStrings config = [(1, config.identity.manufacturer), (2, config.identity.productName),
      (3, config.identity.serial)] := rfl

/-- Every descriptor served for a named index decodes to its identity string. -/
def ServesIdentity (config : ConfigDescriptorSet) : Prop :=
  ∀ index text, (index, text) ∈ namedStrings config →
    ∃ d, (buildDescriptorBytes config).stringData index = some d ∧ DecodesTo d text

/-- The length byte is right exactly up to 126 code units. -/
theorem lengthByte_eq_iff (s : String) :
    (UInt8.ofNat (2 + (encodeUtf16 s.toList).length * 2)).toNat =
        (encodeStringDescriptor s).length ↔
      (encodeUtf16 s.toList).length ≤ 126 := by
  simp only [UInt8.toNat_ofNat', length_encodeStringDescriptor]
  omega

/-- A string descriptor decodes to its string exactly when the length fits in a byte. -/
theorem decodesTo_encodeStringDescriptor_iff (s : String) :
    DecodesTo (encodeStringDescriptor s) s ↔ (encodeUtf16 s.toList).length ≤ 126 := by
  constructor
  · rintro ⟨length, first, exact, -⟩
    have header : length = UInt8.ofNat (2 + (encodeUtf16 s.toList).length * 2) := by
      simpa [encodeStringDescriptor, eq_comm] using first
    rw [header] at exact
    exact (lengthByte_eq_iff s).mp exact
  · intro short
    have exact := (lengthByte_eq_iff s).mpr short
    refine ⟨_, rfl, exact, rfl, ?_⟩
    rw [exact, List.take_length]
    exact decodeUtf16Le_encodeUtf16Le s.toList

/-- Both default strings are short enough. -/
theorem default_strings_short :
    (encodeUtf16 ReceiverIdentity.default.manufacturer.toList).length ≤ 126 ∧
      (encodeUtf16 ReceiverIdentity.default.productName.toList).length ≤ 126 := by
  decide

/-- The blobs behind the named indices encode the identity strings. -/
theorem stringData_of_built {count : UInt8} {serials : List String} {config : ConfigDescriptorSet}
    (built : Built count serials config) :
    ∀ index text, (index, text) ∈ namedStrings config →
      (buildDescriptorBytes config).stringData index = some (encodeStringDescriptor text) := by
  have wellFormed := built.wellFormed
  intro index text named
  simp only [namedStrings_eq, List.mem_cons, Prod.mk.injEq, List.not_mem_nil, or_false] at named
  rcases named with ⟨rfl, rfl⟩ | ⟨rfl, rfl⟩ | ⟨rfl, rfl⟩
  · simp [DescriptorBytes.stringData, buildDescriptorBytes, wellFormed.manufacturerString]
  · simp [DescriptorBytes.stringData, buildDescriptorBytes, wellFormed.productString]
  · simp [DescriptorBytes.stringData, buildDescriptorBytes, wellFormed.serialString]

/-- Serving the identity needs a serial of at most 126 code units. -/
theorem serial_short_of_servesIdentity {count : UInt8} {serials : List String}
    {config : ConfigDescriptorSet} (built : Built count serials config)
    (serves : ServesIdentity config) :
    (encodeUtf16 config.identity.serial.toList).length ≤ 126 := by
  have named : (3, config.identity.serial) ∈ namedStrings config := by simp
  obtain ⟨d, served, decodes⟩ := serves 3 config.identity.serial named
  rw [stringData_of_built built 3 config.identity.serial named, Option.some.injEq] at served
  rw [← served] at decodes
  exact (decodesTo_encodeStringDescriptor_iff _).mp decodes

/-- The served strings decode to the configured identity, with the serial set
last, exactly when that serial has at most 126 UTF-16 code units. -/
theorem servesIdentity_iff {count : UInt8} {serials : List String} {config : ConfigDescriptorSet}
    (built : Built count serials config) :
    config.identity.serial = serials.getLastD ReceiverIdentity.default.serial ∧
      (ServesIdentity config ↔
        (encodeUtf16 (serials.getLastD ReceiverIdentity.default.serial).toList).length ≤ 126) := by
  have wellFormed := built.wellFormed
  refine ⟨wellFormed.serial, ?_⟩
  rw [← wellFormed.serial]
  constructor
  · exact serial_short_of_servesIdentity built
  · intro short index text named
    refine ⟨_, stringData_of_built built index text named, ?_⟩
    rw [decodesTo_encodeStringDescriptor_iff]
    simp only [namedStrings_eq, List.mem_cons, Prod.mk.injEq, List.not_mem_nil, or_false] at named
    rcases named with ⟨-, rfl⟩ | ⟨-, rfl⟩ | ⟨-, rfl⟩
    · rw [wellFormed.manufacturer]
      exact default_strings_short.1
    · rw [wellFormed.productName]
      exact default_strings_short.2
    · exact short

/-- The serial of the source's own test is served. -/
theorem servesIdentity_custom123 :
    ∃ config, Built 1 ["CUSTOM123"] config ∧ ServesIdentity config := by
  have built := Built.renamed (Built.fresh (show new 1 = .ok _ from rfl)) "CUSTOM123"
  exact ⟨_, built, (servesIdentity_iff built).2.mpr (by decide)⟩

/-- A serial made of one letter. -/
def letters (count : Nat) : String := String.ofList (List.replicate count 'A')

/-- A letter takes one unit of UTF-16. -/
theorem length_encodeUtf16_letters (count : Nat) :
    (encodeUtf16 (letters count).toList).length = count := by
  have single : (encodeChar 'A').length = 1 := rfl
  rw [letters, String.toList_ofList, length_encodeUtf16_replicate, single, Nat.mul_one]

/-- The 256-byte descriptor of 127 letters states length zero. -/
theorem letters_127_not_served :
    ∃ config, Built 1 [letters 127] config ∧ ¬ServesIdentity config := by
  have built := Built.renamed (Built.fresh (show new 1 = .ok _ from rfl)) (letters 127)
  refine ⟨_, built, fun serves => ?_⟩
  have short := serial_short_of_servesIdentity built serves
  rw [withSerial_identity, length_encodeUtf16_letters] at short
  omega

end X360Gadget.Descriptors
