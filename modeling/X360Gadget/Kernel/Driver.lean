import Mathlib.Data.Finset.Erase
import Mathlib.Data.Finset.Insert
import Mathlib.Data.List.Basic
import X360Gadget.Kernel.RawGadget

/-!
# The endpoint discipline of the kernel driver

What the driver documents about enabling endpoints, by their addresses and by
the handles it returns, as predicates on an `Os`, each with a driver that
satisfies it.
-/

namespace X360Gadget.Kernel

variable {K : Type}

/-- Each address names one endpoint, `EP_ENABLE` succeeds exactly while it is
disabled, and only `EP_DISABLE` disables. -/
structure Lawful (os : Os K) (enabled : K → UInt8 → Prop) : Prop where
  enable_iff : ∀ k desc, (os.serve k (.epEnable desc)).1.result.toOption.isSome ↔
    ¬enabled k desc.bEndpointAddress
  after_enable : ∀ k desc address, enabled (os.serve k (.epEnable desc)).2 address ↔
    enabled k address ∨ address = desc.bEndpointAddress
  after_other : ∀ k call address, (∀ desc, call ≠ .epEnable desc) →
    (∀ ep, call ≠ .epDisable ep) → (enabled (os.serve k call).2 address ↔ enabled k address)

/-- A driver whose state is the list of enabled addresses and whose handles are
the addresses. -/
def Os.exclusive : Os (List UInt8) where
  serve enabled
    | .epEnable desc =>
        if desc.bEndpointAddress ∈ enabled then ({ rv := -1, errno := 16 }, enabled)
        else ({ rv := Int32.ofNat desc.bEndpointAddress.toNat, errno := 0 },
          desc.bEndpointAddress :: enabled)
    | .epDisable ep =>
        ({ rv := 0, errno := 0 }, enabled.filter fun address => Int32.ofNat address.toNat ≠ ep)
    | _ => ({ rv := 0, errno := 0 }, enabled)

/-- A kernel that enables an address once is lawful, with its set of enabled addresses. -/
theorem lawful_exclusive : Lawful Os.exclusive fun enabled address => address ∈ enabled where
  enable_iff := by
    intro enabled desc
    by_cases member : desc.bEndpointAddress ∈ enabled
    · simp [Os.exclusive, member, SyscallReply.result, Except.toOption]
    · have bound := desc.bEndpointAddress.toNat_lt
      have nonnegative : ¬Int32.ofNat desc.bEndpointAddress.toNat < 0 := by
        rw [Int32.lt_iff_toInt_lt, Int32.toInt_ofNat_of_lt (by omega)]
        change ¬((desc.bEndpointAddress.toNat : Int) < 0)
        omega
      simp [Os.exclusive, member, SyscallReply.result, nonnegative, Except.toOption]
  after_enable := by
    intro enabled desc address
    by_cases member : desc.bEndpointAddress ∈ enabled
    · simp only [Os.exclusive, if_pos member]
      constructor
      · exact .inl
      · rintro (held | rfl)
        · exact held
        · exact member
    · simp only [Os.exclusive, if_neg member, List.mem_cons]
      exact or_comm
  after_other := by
    intro enabled call address notEnable notDisable
    cases call with
    | epEnable desc => exact absurd rfl (notEnable desc)
    | epDisable ep => exact absurd rfl (notDisable ep)
    | _ => rfl

/-! ## Handles -/

/-- `EP_ENABLE` succeeds with the handle of no enabled endpoint, `EP_DISABLE`
succeeds exactly on the handle of an enabled one, and only these two calls change
which handles are enabled. -/
structure LawfulHandles (os : Os K) (enabled : K → Finset Int32) : Prop where
  enable_fresh : ∀ {k desc handle}, (os.serve k (.epEnable desc)).1.result = .ok handle →
    handle ∉ enabled k ∧ enabled (os.serve k (.epEnable desc)).2 = insert handle (enabled k)
  enable_error : ∀ {k desc errno}, (os.serve k (.epEnable desc)).1.result = .error errno →
    enabled (os.serve k (.epEnable desc)).2 = enabled k
  disable_iff : ∀ k ep, (os.serve k (.epDisable ep)).1.result.toOption.isSome ↔ ep ∈ enabled k
  after_disable : ∀ k ep, enabled (os.serve k (.epDisable ep)).2 = (enabled k).erase ep
  after_other : ∀ k call, (∀ desc, call ≠ .epEnable desc) → (∀ ep, call ≠ .epDisable ep) →
    enabled (os.serve k call).2 = enabled k

/-- The lowest of thirty handles that is not enabled. -/
def lowestFree (enabled : Finset Int32) : Option Int32 :=
  ((List.range 30).map Int32.ofNat).find? (· ∉ enabled)

/-- The handle found is free and is no error code. -/
theorem lowestFree_eq_some {enabled : Finset Int32} {handle : Int32}
    (found : lowestFree enabled = some handle) : handle ∉ enabled ∧ ¬handle < 0 := by
  have met := List.find?_some found
  obtain ⟨number, inRange, rfl⟩ := List.mem_map.mp (List.mem_of_find?_eq_some found)
  refine ⟨by simpa using met, ?_⟩
  have few : number < 30 := List.mem_range.mp inRange
  rw [Int32.lt_iff_toInt_lt, Int32.toInt_ofNat_of_lt (by omega)]
  exact Int.not_lt.mpr (Int.natCast_nonneg number)

/-- A driver of thirty endpoints whose state is the set of enabled handles and
which enables the lowest free one. -/
def Os.lowestHandle : Os (Finset Int32) where
  serve enabled
    | .epEnable _ =>
        match lowestFree enabled with
        | some handle => ({ rv := handle, errno := 0 }, insert handle enabled)
        | none => ({ rv := -1, errno := 16 }, enabled)
    | .epDisable ep =>
        if ep ∈ enabled then ({ rv := 0, errno := 0 }, enabled.erase ep)
        else ({ rv := -1, errno := 22 }, enabled)
    | _ => ({ rv := 0, errno := 0 }, enabled)

/-- A kernel that hands out the lowest free handle is lawful in its handles. -/
theorem lawfulHandles_lowestHandle : LawfulHandles Os.lowestHandle id where
  enable_fresh := by
    intro enabled desc handle answered
    simp only [Os.lowestHandle] at answered ⊢
    cases found : lowestFree enabled with
    | none =>
        rw [found] at answered
        cases answered
    | some lowest =>
        obtain ⟨fresh, nonnegative⟩ := lowestFree_eq_some found
        rw [found] at answered
        have same : lowest = handle := by simpa [SyscallReply.result, nonnegative] using answered
        exact ⟨same ▸ fresh, same ▸ rfl⟩
  enable_error := by
    intro enabled desc errno answered
    simp only [Os.lowestHandle] at answered ⊢
    cases found : lowestFree enabled with
    | none => rfl
    | some lowest =>
        obtain ⟨-, nonnegative⟩ := lowestFree_eq_some found
        rw [found] at answered
        simp [SyscallReply.result, nonnegative] at answered
  disable_iff := by
    intro enabled ep
    by_cases member : ep ∈ enabled
    · simp [Os.lowestHandle, member, SyscallReply.result, Except.toOption]
    · simp [Os.lowestHandle, member, SyscallReply.result, Except.toOption]
  after_disable := by
    intro enabled ep
    by_cases member : ep ∈ enabled
    · simp only [Os.lowestHandle, if_pos member, id]
    · simp only [Os.lowestHandle, if_neg member, id, Finset.erase_eq_of_notMem member]
  after_other := by
    intro enabled call notEnable notDisable
    cases call with
    | epEnable desc => exact absurd rfl (notEnable desc)
    | epDisable ep => exact absurd rfl (notDisable ep)
    | _ => rfl

end X360Gadget.Kernel
