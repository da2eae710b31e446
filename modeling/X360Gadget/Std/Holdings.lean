import Mathlib.Data.Finset.Insert
import Mathlib.Data.Finset.Erase
import Mathlib.Logic.Function.Basic

/-!
# Acquired resources and their owners

`Holdings` keeps the resources a program has acquired and the one each owner
holds. In `Exclusive` holdings an owner's resource is acquired and nobody else's;
in `Balanced` ones every acquired resource has an owner as well. Handing a fresh
resource to a new owner and releasing an owner's resource keep both; acquiring
one without an owner destroys the balance for good.
-/

namespace X360Gadget.Std

/-- The acquired resources, and which of them each owner holds. -/
structure Holdings (Owner Resource : Type) where
  acquired : Finset Resource
  holds : Owner → Option Resource

namespace Holdings

variable {Owner Resource : Type} {h : Holdings Owner Resource}

/-- The acquired resources are those that are held. -/
def Balanced (h : Holdings Owner Resource) : Prop :=
  ∀ resource, resource ∈ h.acquired ↔ ∃ owner, h.holds owner = some resource

/-- What is held is acquired, and held once. -/
structure Exclusive (h : Holdings Owner Resource) : Prop where
  acquired : ∀ {owner resource}, h.holds owner = some resource → resource ∈ h.acquired
  once : ∀ {first second resource}, h.holds first = some resource →
    h.holds second = some resource → first = second

section Leak

variable [DecidableEq Resource] {resource : Resource}

/-- Acquire a resource for nobody. -/
def leak (h : Holdings Owner Resource) (resource : Resource) : Holdings Owner Resource where
  acquired := insert resource h.acquired
  holds := h.holds

/-- Leaking a resource keeps the holders exclusive. -/
theorem Exclusive.leak (exclusive : h.Exclusive) : (h.leak resource).Exclusive :=
  ⟨fun holding => Finset.mem_insert_of_mem (exclusive.acquired holding), exclusive.once⟩

/-- A leaked resource has no owner. -/
theorem not_balanced_leak (exclusive : h.Exclusive) (fresh : resource ∉ h.acquired) :
    ¬(h.leak resource).Balanced := by
  intro balanced
  obtain ⟨owner, holding⟩ := (balanced resource).mp (Finset.mem_insert_self resource h.acquired)
  exact fresh (exclusive.acquired holding)

end Leak

section Owners

variable [DecidableEq Owner] [DecidableEq Resource]

/-- Acquire a resource for an owner. -/
def hand (h : Holdings Owner Resource) (owner : Owner) (resource : Resource) :
    Holdings Owner Resource where
  acquired := insert resource h.acquired
  holds := Function.update h.holds owner (some resource)

/-- Give up the resource of an owner. -/
def release (h : Holdings Owner Resource) (owner : Owner) (resource : Resource) :
    Holdings Owner Resource where
  acquired := h.acquired.erase resource
  holds := Function.update h.holds owner none

variable {owner : Owner} {resource : Resource}

/-- An owner holds the resource after `hand` if it got it now or had it before. -/
theorem holds_hand {other : Owner} {held : Resource} :
    (h.hand owner resource).holds other = some held ↔
      other = owner ∧ held = resource ∨ other ≠ owner ∧ h.holds other = some held := by
  simp only [hand, Function.update_apply]
  by_cases same : other = owner
  · simp [same, eq_comm]
  · simp [same]

/-- After `release` the other owners hold what they held. -/
theorem holds_release {other : Owner} {held : Resource} :
    (h.release owner resource).holds other = some held ↔
      other ≠ owner ∧ h.holds other = some held := by
  simp only [release, Function.update_apply]
  by_cases same : other = owner
  · simp [same]
  · simp [same]

/-- A new resource for a new owner stays exclusive. -/
theorem Exclusive.hand (exclusive : h.Exclusive) (fresh : resource ∉ h.acquired) :
    (h.hand owner resource).Exclusive := by
  refine ⟨?_, ?_⟩
  · intro other held holding
    rcases holds_hand.mp holding with ⟨-, rfl⟩ | ⟨-, before⟩
    · exact Finset.mem_insert_self held h.acquired
    · exact Finset.mem_insert_of_mem (exclusive.acquired before)
  · intro first second held firstHolds secondHolds
    rcases holds_hand.mp firstHolds with ⟨rfl, rfl⟩ | ⟨-, firstBefore⟩ <;>
      rcases holds_hand.mp secondHolds with ⟨rfl, same⟩ | ⟨-, secondBefore⟩
    · rfl
    · exact absurd (exclusive.acquired secondBefore) fresh
    · exact absurd (exclusive.acquired (same ▸ firstBefore)) fresh
    · exact exclusive.once firstBefore secondBefore

/-- Only the owner loses its resource. -/
theorem Exclusive.release (exclusive : h.Exclusive) (held : h.holds owner = some resource) :
    (h.release owner resource).Exclusive := by
  refine ⟨?_, ?_⟩
  · intro other kept holding
    obtain ⟨different, before⟩ := holds_release.mp holding
    refine Finset.mem_erase.mpr ⟨?_, exclusive.acquired before⟩
    rintro rfl
    exact different (exclusive.once before held)
  · intro first second kept firstHolds secondHolds
    exact exclusive.once (holds_release.mp firstHolds).2 (holds_release.mp secondHolds).2

/-- A resource for an owner that held nothing keeps the balance. -/
theorem Balanced.hand (balanced : h.Balanced) (idle : h.holds owner = none) :
    (h.hand owner resource).Balanced := by
  intro acquired
  rw [Holdings.hand, Finset.mem_insert, balanced acquired]
  constructor
  · rintro (rfl | ⟨other, before⟩)
    · exact ⟨owner, holds_hand.mpr (.inl ⟨rfl, rfl⟩)⟩
    · refine ⟨other, holds_hand.mpr (.inr ⟨?_, before⟩)⟩
      rintro rfl
      cases idle.symm.trans before
  · rintro ⟨other, holding⟩
    rcases holds_hand.mp holding with ⟨-, same⟩ | ⟨-, before⟩
    · exact .inl same
    · exact .inr ⟨other, before⟩

/-- Giving up an owner's resource keeps the balance. -/
theorem Balanced.release (balanced : h.Balanced) (exclusive : h.Exclusive)
    (held : h.holds owner = some resource) : (h.release owner resource).Balanced := by
  intro acquired
  rw [Holdings.release, Finset.mem_erase, balanced acquired]
  constructor
  · rintro ⟨different, other, before⟩
    refine ⟨other, holds_release.mpr ⟨?_, before⟩⟩
    rintro rfl
    exact different (Option.some.inj (before.symm.trans held))
  · rintro ⟨other, holding⟩
    obtain ⟨different, before⟩ := holds_release.mp holding
    refine ⟨?_, other, before⟩
    rintro rfl
    exact different (exclusive.once before held)

end Owners

end Holdings

end X360Gadget.Std
