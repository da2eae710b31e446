import Mathlib.Data.Finset.Image
import Mathlib.Data.Finset.Range
import Mathlib.Logic.Function.Basic
import X360Gadget.Kernel.Driver

/-!
# A driver that hands out its endpoints in order

The driver keeps an array of endpoints, and the handle that `EP_ENABLE` returns is
the index of the first disabled one. `Ordered` says so of an `Os` whose endpoints
take any descriptor. The enabled handles then follow `LawfulHandles`, and while
nothing is disabled the array is the list of the descriptors enabled so far.
-/

namespace X360Gadget.Kernel

variable {K : Type}

/-- The endpoints of a controller by index, each with what it is enabled as. -/
abbrev EndpointArray := Nat → Option UsbEndpointDescriptor

/-- The first disabled endpoint. -/
def firstDisabled (array : EndpointArray) (capacity : Nat) : Option Nat :=
  (List.range capacity).find? fun j => (array j).isNone

/-- `EP_ENABLE` enables the first disabled of `capacity` endpoints and returns its
index, `EP_DISABLE` takes such an index, and no other call enables or disables. -/
structure Ordered (os : Os K) (capacity : Nat) (array : K → EndpointArray) : Prop where
  capacity_le : capacity ≤ 30
  enable_some : ∀ {k j} desc, firstDisabled (array k) capacity = some j →
    (os.serve k (.epEnable desc)).1.result = .ok (Int32.ofNat j) ∧
      array (os.serve k (.epEnable desc)).2 = Function.update (array k) j (some desc)
  enable_none : ∀ {k} desc, firstDisabled (array k) capacity = none →
    (os.serve k (.epEnable desc)).1.result.toOption = none ∧
      array (os.serve k (.epEnable desc)).2 = array k
  disable_some : ∀ {k j}, j < capacity → (array k j).isSome →
    (os.serve k (.epDisable (Int32.ofNat j))).1.result.toOption.isSome ∧
      array (os.serve k (.epDisable (Int32.ofNat j))).2 = Function.update (array k) j none
  disable_none : ∀ {k ep}, (∀ j < capacity, (array k j).isSome → Int32.ofNat j ≠ ep) →
    (os.serve k (.epDisable ep)).1.result.toOption = none ∧
      array (os.serve k (.epDisable ep)).2 = array k
  other : ∀ {k call}, (∀ desc, call ≠ .epEnable desc) → (∀ ep, call ≠ .epDisable ep) →
    array (os.serve k call).2 = array k

/-- The call concerns endpoint zero or the whole device. -/
def Syscall.endpointless : Syscall → Bool
  | .ep0Write _ | .ep0Read _ | .ep0Stall | .vbusDraw _ | .configure => true
  | .epEnable _ | .epDisable _ | .epWrite _ | .spawnEpOut _ _ => false

/-- Calls that concern no endpoint but zero succeed. -/
def Obliging (os : Os K) : Prop :=
  ∀ {k call}, call.endpointless → (os.serve k call).1.result.toOption.isSome

/-! ## Handles -/

/-- Handles below the limit of the driver are distinct. -/
theorem ofNat_inj_of_lt {i j : Nat} (first : i < 30) (second : j < 30) :
    Int32.ofNat i = Int32.ofNat j ↔ i = j := by
  constructor
  · intro same
    have values := congrArg Int32.toInt same
    rw [Int32.toInt_ofNat_of_lt (by omega), Int32.toInt_ofNat_of_lt (by omega)] at values
    omega
  · exact congrArg Int32.ofNat

/-- The handles of the enabled endpoints. -/
def enabledHandles (capacity : Nat) (array : EndpointArray) : Finset Int32 :=
  ((Finset.range capacity).filter fun j => (array j).isSome).image Int32.ofNat

/-- A handle is enabled when the entry that it numbers holds a descriptor. -/
theorem mem_enabledHandles {capacity : Nat} {array : EndpointArray} {ep : Int32} :
    ep ∈ enabledHandles capacity array ↔
      ∃ j < capacity, (array j).isSome ∧ Int32.ofNat j = ep := by
  simp [enabledHandles, and_assoc]

section Handles

variable {capacity : Nat} {array : EndpointArray} {j : Nat}

/-- The handle of an entry within the capacity is enabled exactly when the entry is
filled. -/
theorem ofNat_mem_enabledHandles (limit : capacity ≤ 30) (inRange : j < capacity) :
    Int32.ofNat j ∈ enabledHandles capacity array ↔ (array j).isSome := by
  rw [mem_enabledHandles]
  constructor
  · rintro ⟨i, below, enabled, same⟩
    rw [ofNat_inj_of_lt (by omega) (by omega)] at same
    rw [← same]
    exact enabled
  · intro enabled
    exact ⟨j, inRange, enabled, rfl⟩

/-- Filling an entry enables its handle. -/
theorem enabledHandles_enable (inRange : j < capacity) (desc : UsbEndpointDescriptor) :
    enabledHandles capacity (Function.update array j (some desc)) =
      insert (Int32.ofNat j) (enabledHandles capacity array) := by
  ext ep
  rw [Finset.mem_insert, mem_enabledHandles, mem_enabledHandles]
  constructor
  · rintro ⟨i, below, enabled, rfl⟩
    by_cases same : i = j
    · exact .inl (congrArg Int32.ofNat same)
    · rw [Function.update_of_ne same] at enabled
      exact .inr ⟨i, below, enabled, rfl⟩
  · rintro (rfl | ⟨i, below, enabled, rfl⟩)
    · exact ⟨j, inRange, by rw [Function.update_self]; rfl, rfl⟩
    · by_cases same : i = j
      · exact ⟨j, inRange, by rw [Function.update_self]; rfl, congrArg Int32.ofNat same.symm⟩
      · exact ⟨i, below, by rw [Function.update_of_ne same]; exact enabled, rfl⟩

/-- Clearing an entry disables its handle. -/
theorem enabledHandles_disable (limit : capacity ≤ 30) (inRange : j < capacity) :
    enabledHandles capacity (Function.update array j none) =
      (enabledHandles capacity array).erase (Int32.ofNat j) := by
  ext ep
  rw [Finset.mem_erase, mem_enabledHandles, mem_enabledHandles]
  constructor
  · rintro ⟨i, below, enabled, rfl⟩
    by_cases same : i = j
    · rw [same, Function.update_self] at enabled
      cases enabled
    · rw [Function.update_of_ne same] at enabled
      refine ⟨?_, i, below, enabled, rfl⟩
      rw [ne_eq, ofNat_inj_of_lt (by omega) (by omega)]
      exact same
  · rintro ⟨other, i, below, enabled, rfl⟩
    have different : i ≠ j := fun same => other (congrArg Int32.ofNat same)
    exact ⟨i, below, by rw [Function.update_of_ne different]; exact enabled, rfl⟩

end Handles

/-- The entry found is within the capacity and holds no descriptor. -/
theorem firstDisabled_eq_some {array : EndpointArray} {capacity j : Nat}
    (found : firstDisabled array capacity = some j) : j < capacity ∧ array j = none := by
  obtain ⟨none, inRange, -⟩ := List.find?_range_eq_some.mp found
  exact ⟨List.mem_range.mp inRange, Option.isNone_iff_eq_none.mp none⟩

/-- An ordered driver hands out fresh handles and disables by handle. -/
theorem Ordered.lawfulHandles {os : Os K} {capacity : Nat} {array : K → EndpointArray}
    (ordered : Ordered os capacity array) :
    LawfulHandles os fun k => enabledHandles capacity (array k) where
  enable_fresh := by
    intro k desc handle answered
    cases found : firstDisabled (array k) capacity with
    | none =>
        have refused := (ordered.enable_none desc found).1
        rw [answered] at refused
        cases refused
    | some j =>
        obtain ⟨result, after⟩ := ordered.enable_some desc found
        obtain ⟨inRange, disabled⟩ := firstDisabled_eq_some found
        obtain rfl : Int32.ofNat j = handle := Except.ok.inj (result.symm.trans answered)
        rw [after, enabledHandles_enable inRange,
          ofNat_mem_enabledHandles ordered.capacity_le inRange, disabled]
        exact ⟨Bool.noConfusion, rfl⟩
  enable_error := by
    intro k desc errno answered
    cases found : firstDisabled (array k) capacity with
    | none => rw [(ordered.enable_none desc found).2]
    | some j =>
        have result := (ordered.enable_some desc found).1
        cases result.symm.trans answered
  disable_iff := by
    intro k ep
    by_cases enabled : ep ∈ enabledHandles capacity (array k)
    · obtain ⟨j, inRange, isSome, rfl⟩ := mem_enabledHandles.mp enabled
      exact iff_of_true (ordered.disable_some inRange isSome).1 enabled
    · have unknown : ∀ j < capacity, (array k j).isSome → Int32.ofNat j ≠ ep :=
        fun j inRange isSome same => enabled (mem_enabledHandles.mpr ⟨j, inRange, isSome, same⟩)
      have refused := (ordered.disable_none unknown).1
      rw [refused]
      exact iff_of_false Bool.noConfusion enabled
  after_disable := by
    intro k ep
    by_cases enabled : ep ∈ enabledHandles capacity (array k)
    · obtain ⟨j, inRange, isSome, rfl⟩ := mem_enabledHandles.mp enabled
      rw [(ordered.disable_some inRange isSome).2,
        enabledHandles_disable ordered.capacity_le inRange]
    · rw [(ordered.disable_none fun j inRange isSome same =>
        enabled (mem_enabledHandles.mpr ⟨j, inRange, isSome, same⟩)).2,
        Finset.erase_eq_of_notMem enabled]
  after_other := by
    intro k call notEnable notDisable
    rw [ordered.other notEnable notDisable]

/-! ## While nothing is disabled -/

/-- The array that holds a list of descriptors from its front on. -/
def arrayOf (descs : List UsbEndpointDescriptor) : EndpointArray := fun j => descs[j]?

/-- In an array that is filled from the front the first free entry is the one after
the last. -/
theorem firstDisabled_arrayOf (descs : List UsbEndpointDescriptor) (capacity : Nat) :
    firstDisabled (arrayOf descs) capacity =
      if descs.length < capacity then some descs.length else none := by
  split
  · next room =>
      refine List.find?_range_eq_some.mpr ⟨?_, List.mem_range.mpr room, ?_⟩
      · simp [arrayOf]
      · intro j before
        simp [arrayOf, before]
  · next full =>
      refine List.find?_range_eq_none.mpr ?_
      intro j inRange
      have before : j < descs.length := by omega
      simp [arrayOf, before]

/-- Enabling one more adds it at the end. -/
theorem update_arrayOf (descs : List UsbEndpointDescriptor) (desc : UsbEndpointDescriptor) :
    Function.update (arrayOf descs) descs.length (some desc) = arrayOf (descs ++ [desc]) := by
  funext j
  by_cases isLast : j = descs.length
  · rw [isLast, Function.update_self, arrayOf, List.getElem?_concat_length]
  · rw [Function.update_of_ne isLast, arrayOf, arrayOf, List.getElem?_append]
    split
    · rfl
    · next beyond =>
        rw [List.getElem?_eq_none (by omega), List.getElem?_eq_none (by simp; omega)]

/-! ## What goes to which endpoint -/

/-- A transfer to an endpoint, as it is enabled at the time, and the bytes copied. -/
abbrev Delivery := Option UsbEndpointDescriptor × List UInt8

/-- What an EP_WRITE delivers, and to which endpoint. -/
def deliveryOf (array : EndpointArray) : Syscall → Option Delivery
  | .epWrite io => some (array io.inner.ep.toNat, io.data.bytes.take io.inner.length.toNat)
  | _ => none

/-- The kernel together with what every EP_WRITE handed to it, oldest first. -/
def Os.delivering (os : Os K) (array : K → EndpointArray) : Os (K × List Delivery) where
  serve k call :=
    ((os.serve k.1 call).1, (os.serve k.1 call).2, k.2 ++ (deliveryOf (array k.1) call).toList)

/-- Keeping account changes nothing. -/
theorem Ordered.delivering {os : Os K} {capacity : Nat} {array : K → EndpointArray}
    (ordered : Ordered os capacity array) :
    Ordered (os.delivering array) capacity fun k => array k.1 where
  capacity_le := ordered.capacity_le
  enable_some := ordered.enable_some
  enable_none := ordered.enable_none
  disable_some := ordered.disable_some
  disable_none := ordered.disable_none
  other := ordered.other

/-- Recording what is delivered refuses no call. -/
theorem Obliging.delivering {os : Os K} (obliging : Obliging os) (array : K → EndpointArray) :
    Obliging (os.delivering array) :=
  fun endpointless => obliging endpointless

/-! ## Such a driver -/

/-- The driver over its array; a handle that names no enabled endpoint is refused. -/
def Os.ordered (capacity : Nat) : Os EndpointArray where
  serve array
    | .epEnable desc =>
        match firstDisabled array capacity with
        | some j => ({ rv := Int32.ofNat j, errno := 0 }, Function.update array j (some desc))
        | none => ({ rv := -1, errno := 16 }, array)
    | .epDisable ep =>
        match (List.range capacity).find? fun j => (array j).isSome ∧ Int32.ofNat j = ep with
        | some j => ({ rv := 0, errno := 0 }, Function.update array j none)
        | none => ({ rv := -1, errno := 22 }, array)
    | _ => ({ rv := 0, errno := 0 }, array)

/-- The kernel that fills the first free entry is ordered. -/
theorem ordered_ordered {capacity : Nat} (limit : capacity ≤ 30) :
    Ordered (Os.ordered capacity) capacity id where
  capacity_le := limit
  enable_some := by
    intro array j desc found
    obtain ⟨inRange, -⟩ := firstDisabled_eq_some found
    have nonnegative : ¬Int32.ofNat j < 0 := by
      rw [Int32.lt_iff_toInt_lt, Int32.toInt_ofNat_of_lt (by omega)]
      exact Int.not_lt.mpr (Int.natCast_nonneg j)
    simp only [id] at found
    simp only [Os.ordered, found, SyscallReply.result, if_neg nonnegative, id, and_self]
  enable_none := by
    intro array desc found
    simp only [id] at found
    simp only [Os.ordered, found, id, and_true]
    rfl
  disable_some := by
    intro array j inRange enabled
    have found : (List.range capacity).find? (fun i => (array i).isSome ∧
        Int32.ofNat i = Int32.ofNat j) = some j := by
      refine List.find?_range_eq_some.mpr ⟨?_, List.mem_range.mpr inRange, ?_⟩
      · simpa using enabled
      · intro i before
        have different : Int32.ofNat i ≠ Int32.ofNat j := by
          rw [ne_eq, ofNat_inj_of_lt (by omega) (by omega)]
          omega
        simp [different]
    simp only [Os.ordered, id, found, and_true]
    rfl
  disable_none := by
    intro array ep unknown
    have missing : (List.range capacity).find? (fun j => (array j).isSome ∧
        Int32.ofNat j = ep) = none := by
      refine List.find?_range_eq_none.mpr ?_
      intro j inRange
      cases disabled : array j with
      | none => simp
      | some desc =>
          have other := unknown j inRange (by simp [disabled])
          simp [other]
    simp only [Os.ordered, id, missing, and_true]
    rfl
  other := by
    intro array call notEnable notDisable
    cases call with
    | epEnable desc => exact absurd rfl (notEnable desc)
    | epDisable ep => exact absurd rfl (notDisable ep)
    | _ => rfl

/-- The kernel that fills the first free entry refuses no other call. -/
theorem obliging_ordered (capacity : Nat) : Obliging (Os.ordered capacity) := by
  intro array call endpointless
  cases call with
  | epEnable desc => cases endpointless
  | epDisable ep => cases endpointless
  | _ => rfl

end X360Gadget.Kernel
