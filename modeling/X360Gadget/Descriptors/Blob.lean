import Mathlib.Data.List.Nodup
import X360Gadget.Descriptors.Bytes
import X360Gadget.Kernel.RawGadget
import X360Gadget.Std.Records

/-!
# Walking the configuration blob

A host walks the blob from descriptor to descriptor. `Advertises` says what it
meets: a header, then for each slot an interface, a vendor descriptor and the
endpoints both of them announce. `configBlob_advertises` holds for every number
of interfaces whose endpoint numbers fit in seven bits.
-/

namespace X360Gadget.Descriptors

open X360Gadget.Std X360Gadget.Std.Utf16

/-! ## What a host reads -/

/-- `bDescriptorType`. -/
def descriptorType (record : List UInt8) : UInt8 := record.getD 1 0

/-- An interface descriptor. -/
def isInterface (record : List UInt8) : Bool := descriptorType record == 0x04

/-- An endpoint descriptor. -/
def isEndpoint (record : List UInt8) : Bool := descriptorType record == 0x05

/-- `bEndpointAddress` of an endpoint descriptor. -/
def endpointAddress (record : List UInt8) : UInt8 := record.getD 2 0

/-- The descriptors of one interface. -/
structure SlotGroup where
  interface : List UInt8
  vendor : List UInt8
  endpoints : List (List UInt8)

/-- The group in the order a walk meets it. -/
def SlotGroup.records (group : SlotGroup) : List (List UInt8) :=
  group.interface :: group.vendor :: group.endpoints

/-- The group describes slot `i`, and its descriptors agree with each other. -/
structure SlotGroup.Describes (group : SlotGroup) (i : Nat) : Prop where
  interfaceType : descriptorType group.interface = 0x04
  interfaceNumber : (group.interface.getD 2 0).toNat = i
  vendorType : descriptorType group.vendor = 0x22
  endpointTypes : ∀ record ∈ group.endpoints, descriptorType record = 0x05
  numEndpoints : group.endpoints.length = (group.interface.getD 4 0).toNat
  addresses : group.endpoints.map endpointAddress =
    [group.vendor.getD 5 0, group.vendor.getD 13 0]

/-- A walk of `blob` meets `header` and then one group for each of `n` slots. -/
structure Advertises (n : Nat) (blob header : List UInt8) (groups : List SlotGroup) : Prop where
  walked : Records.walk blob = some (header :: groups.flatMap SlotGroup.records)
  headerType : descriptorType header = 0x02
  totalLength : (header.getD 2 0).toNat + 256 * (header.getD 3 0).toNat = blob.length
  numInterfaces : (header.getD 4 0).toNat =
    ((header :: groups.flatMap SlotGroup.records).filter isInterface).length
  slots : groups.length = n
  describes : ∀ i (bound : i < groups.length), groups[i].Describes i
  numEndpoints :
    ((header :: groups.flatMap SlotGroup.records).filter isEndpoint).length = 2 * n
  distinct : (((header :: groups.flatMap SlotGroup.records).filter isEndpoint).map
    endpointAddress).Nodup

/-! ## The blob as records -/

/-- IN endpoint address inside the blob. -/
def blobEpIn (i : Nat) : UInt8 := 0x80 ||| (UInt8.ofNat i + 1)

/-- OUT endpoint address inside the blob. -/
def blobEpOut (i : Nat) : UInt8 := UInt8.ofNat i + 1

/-- The group of slot `i`. -/
def slotGroup (i : Nat) : SlotGroup where
  interface := interfaceDescriptor i
  vendor := vendorDescriptor (blobEpIn i) (blobEpOut i)
  endpoints := [endpointDescriptor (blobEpIn i) 0x04, endpointDescriptor (blobEpOut i) 0x08]

/-- The records of a group are the descriptors of its slot. -/
theorem records_slotGroup (i : Nat) : (slotGroup i).records = slotDescriptors i := rfl

/-- The groups of the first `n` slots. -/
def slotGroups (n : Nat) : List SlotGroup := (List.range n).map slotGroup

@[simp] theorem length_slotGroups (n : Nat) : (slotGroups n).length = n := by
  simp [slotGroups]

/-- One more slot appends its group. -/
theorem flatMap_slotGroups_succ {β : Type} (f : SlotGroup → List β) (n : Nat) :
    (slotGroups (n + 1)).flatMap f = (slotGroups n).flatMap f ++ f (slotGroup n) := by
  simp [slotGroups, List.range_succ]

/-- The blob is its records, end to end. -/
theorem configBlob_eq_flatten (n : Nat) :
    configBlob n = (configHeader n :: (slotGroups n).flatMap SlotGroup.records).flatten := by
  have groups : ((slotGroups n).flatMap SlotGroup.records).flatten =
      (List.range n).flatMap fun i => (slotDescriptors i).flatten := by
    induction n with
    | zero => rfl
    | succ n ih =>
        rw [flatMap_slotGroups_succ, List.flatten_append, ih, List.range_succ,
          List.flatMap_append, records_slotGroup]
        simp
  rw [List.flatten_cons, groups, configBlob]

/-- Every record starts with its own length. -/
theorem wellSized_records (n : Nat) :
    ∀ record ∈ configHeader n :: (slotGroups n).flatMap SlotGroup.records,
      Records.WellSized record := by
  intro record member
  rcases List.mem_cons.mp member with rfl | inGroups
  · rfl
  · obtain ⟨group, isGroup, inGroup⟩ := List.mem_flatMap.mp inGroups
    obtain ⟨i, -, rfl⟩ := List.mem_map.mp isGroup
    simp only [SlotGroup.records, slotGroup, List.mem_cons, List.not_mem_nil, or_false] at inGroup
    rcases inGroup with rfl | rfl | rfl | rfl <;> rfl

/-- Interfaces met on the walk: one for each slot. -/
theorem interfaces_met (n : Nat) :
    (configHeader n :: (slotGroups n).flatMap SlotGroup.records).filter isInterface =
      (List.range n).map interfaceDescriptor := by
  have header : isInterface (configHeader n) = false := rfl
  rw [List.filter_cons, header, if_neg Bool.false_ne_true]
  induction n with
  | zero => rfl
  | succ n ih =>
      rw [flatMap_slotGroups_succ, List.filter_append, ih rfl, List.range_succ, List.map_append]
      rfl

/-- Endpoints met on the walk: two for each slot. -/
theorem endpoints_met (n : Nat) :
    (configHeader n :: (slotGroups n).flatMap SlotGroup.records).filter isEndpoint =
      (slotGroups n).flatMap SlotGroup.endpoints := by
  have header : isEndpoint (configHeader n) = false := rfl
  rw [List.filter_cons, header, if_neg Bool.false_ne_true]
  induction n with
  | zero => rfl
  | succ n ih =>
      rw [flatMap_slotGroups_succ, List.filter_append, ih rfl, flatMap_slotGroups_succ]
      rfl

/-- The groups of `n` slots have two endpoints each. -/
theorem length_endpoints (n : Nat) :
    ((slotGroups n).flatMap SlotGroup.endpoints).length = 2 * n := by
  induction n with
  | zero => rfl
  | succ n ih =>
      rw [flatMap_slotGroups_succ, List.length_append, ih]
      rfl

/-! ## Addresses -/

/-- The IN address of a slot does not wrap below 127 slots. -/
theorem toNat_blobEpIn {i : Nat} (bound : i < 127) : (blobEpIn i).toNat = 129 + i :=
  Kernel.toNat_inAddress bound

/-- The OUT address of a slot does not wrap below 127 slots. -/
theorem toNat_blobEpOut {i : Nat} (bound : i < 127) : (blobEpOut i).toNat = i + 1 :=
  Kernel.toNat_outAddress bound

/-- The addresses of the endpoints met, in order. -/
theorem addresses_met (n : Nat) :
    ((slotGroups n).flatMap SlotGroup.endpoints).map endpointAddress =
      (List.range n).flatMap fun i => [blobEpIn i, blobEpOut i] := by
  induction n with
  | zero => rfl
  | succ n ih =>
      rw [flatMap_slotGroups_succ, List.map_append, ih, List.range_succ, List.flatMap_append]
      rfl

/-- No two endpoints share an address. -/
theorem addresses_nodup {n : Nat} (fits : n ≤ 127) :
    ((List.range n).flatMap fun i => [blobEpIn i, blobEpOut i]).Nodup := by
  rw [List.nodup_flatMap]
  constructor
  · intro i member
    have bound : i < 127 := by
      have below := List.mem_range.mp member
      omega
    have differ : blobEpIn i ≠ blobEpOut i := by
      rw [ne_eq, ← UInt8.toNat_inj, toNat_blobEpIn bound, toNat_blobEpOut bound]
      omega
    simp [differ]
  · refine List.pairwise_lt_range.imp_of_mem ?_
    intro i j member member' before address inFirst inSecond
    have bound : j < 127 := by
      have below := List.mem_range.mp member'
      omega
    have first : address.toNat = 129 + i ∨ address.toNat = i + 1 := by
      simp only [List.mem_cons, List.not_mem_nil, or_false] at inFirst
      rcases inFirst with rfl | rfl
      · exact .inl (toNat_blobEpIn (by omega))
      · exact .inr (toNat_blobEpOut (by omega))
    simp only [List.mem_cons, List.not_mem_nil, or_false] at inSecond
    rcases inSecond with rfl | rfl
    · rw [toNat_blobEpIn bound] at first
      omega
    · rw [toNat_blobEpOut bound] at first
      omega

/-- A group describes its own slot. -/
theorem describes_slotGroup {i : Nat} (bound : i < 127) : (slotGroup i).Describes i where
  interfaceType := rfl
  interfaceNumber := by
    change (UInt8.ofNat i).toNat = i
    rw [UInt8.toNat_ofNat']
    omega
  vendorType := rfl
  endpointTypes := by
    intro record member
    simp only [slotGroup, List.mem_cons, List.not_mem_nil, or_false] at member
    rcases member with rfl | rfl <;> rfl
  numEndpoints := rfl
  addresses := rfl

/-- Up to 127 interfaces the blob advertises exactly its slots. -/
theorem configBlob_advertises {n : Nat} (fits : n ≤ 127) :
    Advertises n (configBlob n) (configHeader n) (slotGroups n) where
  walked := by
    rw [configBlob_eq_flatten]
    exact Records.walk_flatten (wellSized_records n)
  headerType := rfl
  totalLength := by
    rw [length_configBlob]
    change (UInt8.ofNat (UInt16.ofNat (9 + n * 43)).toNat).toNat +
      256 * (UInt8.ofNat ((UInt16.ofNat (9 + n * 43)).toNat / 256)).toNat = 9 + n * 43
    rw [UInt8.toNat_ofNat', UInt8.toNat_ofNat', UInt16.toNat_ofNat']
    omega
  numInterfaces := by
    rw [interfaces_met, List.length_map, List.length_range]
    change (UInt8.ofNat n).toNat = n
    rw [UInt8.toNat_ofNat']
    omega
  slots := length_slotGroups n
  describes := by
    intro i bound
    have below : i < n := by simpa using bound
    simp only [slotGroups, List.getElem_map, List.getElem_range]
    exact describes_slotGroup (by omega)
  numEndpoints := by
    rw [endpoints_met, length_endpoints]
  distinct := by
    rw [endpoints_met, addresses_met]
    exact addresses_nodup fits

end X360Gadget.Descriptors
