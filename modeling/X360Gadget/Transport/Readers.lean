import Mathlib.Data.List.Basic
import X360Gadget.Transport.Configured
import X360Gadget.Transport.Gadget

/-!
# The reader threads against the endpoint table

A reader lives until its own read fails, while RESET clears the table and
SET_CONFIGURATION overwrites it. The two agree along a run exactly when no such
event meets a live reader it would disown or double.
-/

namespace X360Gadget.Transport

open X360Gadget.Descriptors X360Gadget.Kernel X360Gadget.Std

variable {K : Type}

/-- No slot has two readers, and each reader reads the handle recorded for its slot. -/
structure ReadersMatch (w : Ep0World K) : Prop where
  single : w.readers.Pairwise fun first second => first.slot ≠ second.slot
  recorded : ∀ reader ∈ w.readers, ∃ bound : reader.slot.toNat < 4,
    w.shared.epOut[reader.slot.toNat] = some reader.epHandle

/-- The step detaches no live reader, and no OUT endpoint it enables has a live
reader, unless the new reader fails to start and the old one reads the new handle. -/
structure SparesReaders (os : Os K) (n : Nat) (w : Ep0World K) (action : GadgetAction) :
    Prop where
  detach : ∀ event, action = .fetch (.ok event) → IsDetach event → w.poisoned = false →
    w.readers = []
  configure : ∀ event, action = .fetch (.ok event) → Configures event → w.poisoned = false →
    ∀ i < n, ∀ h, epOutAnswer os w.kernel i = some h →
      ∀ reader ∈ w.readers, reader.slot = UInt8.ofNat i →
        spawnAnswer os w.kernel i = none ∧ reader.epHandle = h

/-- A started reader reads the handle just recorded for its slot. -/
theorem spawnAnswer_eq_some {os : Os K} {k : K} {i : Nat} {reader : Reader}
    (started : spawnAnswer os k i = some reader) :
    reader.slot = UInt8.ofNat i ∧ epOutAnswer os k i = some reader.epHandle := by
  simp only [spawnAnswer, startedReader, Option.bind_eq_some_iff, Option.map_eq_some_iff] at started
  obtain ⟨h, answered, _, _, rfl⟩ := started
  exact ⟨rfl, answered⟩

private theorem toNat_ofNat_slot {i : Nat} (bound : i < 4) : (UInt8.ofNat i).toNat = i := by
  rw [UInt8.toNat_ofNat']
  omega

section Events

variable {os : Os K} {n : Nat} {w : Ep0World K}

/-- Clearing the table keeps the agreement exactly when nothing reads. -/
theorem readersMatch_clearEndpoints_iff : ReadersMatch (clearEndpoints w) ↔ w.readers = [] := by
  constructor
  · intro matched
    cases readers : w.readers with
    | nil => rfl
    | cons reader rest =>
        have member : reader ∈ (clearEndpoints w).readers := by
          change reader ∈ w.readers
          rw [readers]
          exact List.mem_cons_self
        obtain ⟨bound, recorded⟩ := matched.recorded reader member
        simp [clearEndpoints, SharedState.clearEndpoints] at recorded
  · intro none
    have nobody : (clearEndpoints w).readers = [] := none
    refine ⟨?_, ?_⟩
    · rw [nobody]
      exact List.Pairwise.nil
    · intro reader member
      rw [nobody] at member
      cases member

/-- The cell of a slot after a SET_CONFIGURATION. -/
theorem configured_epOut_slot {i : Nat} (few : n ≤ 4) (slot : i < n)
    (bound : (UInt8.ofNat i).toNat < 4) :
    (configured os n w).shared.epOut[(UInt8.ofNat i).toNat] =
      (epOutAnswer os w.kernel i).or w.shared.epOut[(UInt8.ofNat i).toNat] := by
  have same : (UInt8.ofNat i).toNat = i := toNat_ofNat_slot (by omega)
  rw [configured_epOut _ bound]
  simp only [same, if_pos slot]

/-- The readers a SET_CONFIGURATION starts belong to different slots. -/
theorem pairwise_started {k : K} (few : n ≤ 4) : ((List.range n).filterMap
    (spawnAnswer os k)).Pairwise fun first second => first.slot ≠ second.slot := by
  rw [List.pairwise_filterMap]
  refine List.Pairwise.imp_of_mem ?_ List.pairwise_lt_range
  intro i j inRange inRange' before first started second started' sameSlot
  rw [List.mem_range] at inRange inRange'
  rw [(spawnAnswer_eq_some started).1, (spawnAnswer_eq_some started').1] at sameSlot
  have slotOf : (UInt8.ofNat i).toNat = i := toNat_ofNat_slot (by omega)
  have slotOf' : (UInt8.ofNat j).toNat = j := toNat_ofNat_slot (by omega)
  rw [← sameSlot, slotOf] at slotOf'
  omega

/-- A reader that matches after a SET_CONFIGURATION kept its handle, and no second
reader was started for its slot. -/
theorem spared_of_readersMatch (matched : ReadersMatch (configured os n w)) (few : n ≤ 4)
    {i : Nat} (slot : i < n) {h : Int32} (answered : epOutAnswer os w.kernel i = some h)
    {reader : Reader} (member : reader ∈ w.readers) (sameSlot : reader.slot = UInt8.ofNat i) :
    spawnAnswer os w.kernel i = none ∧ reader.epHandle = h := by
  constructor
  · cases started : spawnAnswer os w.kernel i with
    | none => rfl
    | some other =>
        have distinct := matched.single
        rw [configured_readers, List.pairwise_append] at distinct
        have isNew : other ∈ (List.range n).filterMap (spawnAnswer os w.kernel) :=
          List.mem_filterMap.mpr ⟨i, List.mem_range.mpr slot, started⟩
        refine absurd ?_ (distinct.2.2 reader member other isNew)
        rw [sameSlot, (spawnAnswer_eq_some started).1]
  · have kept : reader ∈ (configured os n w).readers := by
      rw [configured_readers]
      exact List.mem_append_left _ member
    obtain ⟨bound, recorded⟩ := matched.recorded reader kept
    simp only [sameSlot] at bound recorded
    rw [configured_epOut_slot few slot bound, answered, Option.some_or,
      Option.some.injEq] at recorded
    exact recorded.symm

/-- A reader that a SET_CONFIGURATION starts has the handle recorded for its slot. -/
theorem recorded_of_started (few : n ≤ 4) {reader : Reader}
    (new : reader ∈ (List.range n).filterMap (spawnAnswer os w.kernel)) :
    ∃ bound : reader.slot.toNat < 4,
      (configured os n w).shared.epOut[reader.slot.toNat] = some reader.epHandle := by
  obtain ⟨i, inRange, started⟩ := List.mem_filterMap.mp new
  obtain ⟨slotOf, answered⟩ := spawnAnswer_eq_some started
  have slot := List.mem_range.mp inRange
  have bound : reader.slot.toNat < 4 := by
    rw [slotOf, toNat_ofNat_slot (by omega)]
    omega
  refine ⟨bound, ?_⟩
  simp only [slotOf] at bound ⊢
  rw [configured_epOut_slot few slot bound, answered, Option.some_or]

/-- A SET_CONFIGURATION keeps the agreement exactly when it spares the readers. -/
theorem readersMatch_configured_iff (holds : ReadersMatch w) (few : n ≤ 4) :
    ReadersMatch (configured os n w) ↔
      ∀ i < n, ∀ h, epOutAnswer os w.kernel i = some h →
        ∀ reader ∈ w.readers, reader.slot = UInt8.ofNat i →
          spawnAnswer os w.kernel i = none ∧ reader.epHandle = h := by
  constructor
  · intro matched i slot h answered reader member sameSlot
    exact spared_of_readersMatch matched few slot answered member sameSlot
  · intro spares
    refine ⟨?_, ?_⟩
    · rw [configured_readers, List.pairwise_append]
      refine ⟨holds.single, pairwise_started few, ?_⟩
      intro reader member other isNew sameSlot
      obtain ⟨i, inRange, started⟩ := List.mem_filterMap.mp isNew
      obtain ⟨slotOf, answered⟩ := spawnAnswer_eq_some started
      have spared := spares i (List.mem_range.mp inRange) _ answered reader member
        (sameSlot.trans slotOf)
      rw [started] at spared
      cases spared.1
    · intro reader member
      rw [configured_readers, List.mem_append] at member
      rcases member with old | new
      · obtain ⟨bound, recorded⟩ := holds.recorded reader old
        refine ⟨bound, ?_⟩
        rw [configured_epOut _ bound, recorded]
        split
        · next slot =>
            cases answered : epOutAnswer os w.kernel reader.slot.toNat with
            | none => rfl
            | some h =>
                have spared := spares _ slot h answered reader old (by simp)
                rw [Option.some_or, spared.2]
        · rfl
      · exact recorded_of_started few new

end Events

/-- The agreement does not depend on the log. -/
theorem readersMatch_markHandled_iff {w : Ep0World K} {event : UsbRawControlEvent} :
    ReadersMatch (markHandled event w) ↔ ReadersMatch w :=
  ⟨fun matched => ⟨matched.single, matched.recorded⟩,
    fun matched => ⟨matched.single, matched.recorded⟩⟩

/-- One step keeps the agreement exactly when it spares the readers. -/
theorem readersMatch_step {os : Os K} {n : Nat} {w w' : Ep0World K} {action : GadgetAction}
    (holds : ReadersMatch w) (few : n ≤ 4) (stepped : WorldStep os n w action w') :
    ReadersMatch w' ↔ SparesReaders os n w action := by
  cases stepped.tableStep with
  | detached event detach sound =>
      rw [readersMatch_markHandled_iff, readersMatch_clearEndpoints_iff]
      constructor
      · intro none
        refine ⟨fun _ _ _ _ => none, ?_⟩
        rintro _ ⟨⟩ configures
        exact absurd configures (not_configures_of_isDetach detach)
      · intro spares
        exact spares.detach event rfl detach sound
  | configured event configures sound =>
      rw [readersMatch_markHandled_iff, readersMatch_configured_iff holds few]
      constructor
      · intro spared
        refine ⟨?_, fun _ _ _ _ => spared⟩
        rintro _ ⟨⟩ detach
        exact absurd configures (not_configures_of_isDetach detach)
      · intro spares
        exact spares.configure event rfl configures sound
  | uneventful action w' kept =>
      refine iff_of_true ⟨holds.single.sublist kept.readers, ?_⟩ ⟨?_, ?_⟩
      · intro reader member
        rw [kept.shared]
        exact holds.recorded reader (kept.readers.subset member)
      · intro event isEvent detach sound
        rw [kept.blocked event isEvent (.inl detach)] at sound
        cases sound
      · intro event isEvent configures sound
        rw [kept.blocked event isEvent (.inr configures)] at sound
        cases sound

/-- Along a run each slot has at most one reader and it reads the recorded handle
in every state exactly when every step spares the readers. -/
theorem readersMatch_iff {os : Os K} {numInterfaces : UInt8} {desc : DescriptorBytes} {kernel : K}
    {actions : List GadgetAction} {g : Gadget K} (few : numInterfaces.toNat ≤ 4)
    (runs : (gadget os numInterfaces desc).run (.new kernel) actions = some g) :
    (gadget os numInterfaces desc).Always (fun g => ReadersMatch g.world) (.new kernel) actions ↔
      (gadget os numInterfaces desc).EachStep
        (fun g => SparesReaders os numInterfaces.toNat g.world) (.new kernel) actions := by
  have initially : ReadersMatch (Gadget.new kernel).world := by
    refine ⟨List.Pairwise.nil, ?_⟩
    rintro reader ⟨⟩
  refine Machine.always_iff_eachStep _ (fun _ => True) _ _ ?_ ?_ trivial initially runs
  · intro _ _ _ _ _
    trivial
  · intro state action next _ holds stepped
    exact readersMatch_step holds few (gadget_worldStep few stepped)

/-- The first enumeration starts one reader for each slot. -/
theorem readersMatch_first_enumeration :
    ∃ g, (gadget .counting 2 ⟨[], [], [], [], none, none, none⟩).run (.new 0)
        [.fetch (.ok (.setConfiguration 1))] = some g ∧
      (gadget .counting 2 ⟨[], [], [], [], none, none, none⟩).Always
        (fun g => ReadersMatch g.world) (.new 0) [.fetch (.ok (.setConfiguration 1))] := by
  have runs : (gadget .counting 2 ⟨[], [], [], [], none, none, none⟩).run (.new 0)
      [.fetch (.ok (.setConfiguration 1))] = some _ := rfl
  refine ⟨_, runs, (readersMatch_iff (by decide) runs).mpr ?_⟩
  refine (Machine.eachStep_cons _ rfl).mpr ⟨⟨fun _ _ _ _ => rfl, ?_⟩, Machine.eachStep_nil _⟩
  intro _ _ _ _ i slot h answered reader member
  cases member

/-- Configuring a reset device again leaves two readers on one slot, one of them
on a forgotten handle. -/
theorem not_readersMatch_after_reset :
    ∃ g, (gadget .counting 1 ⟨[], [], [], [], none, none, none⟩).run (.new 0)
        [.fetch (.ok (.setConfiguration 1)), .fetch (.ok .reset),
          .fetch (.ok (.setConfiguration 1))] = some g ∧ ¬ReadersMatch g.world := by
  refine ⟨_, rfl, ?_⟩
  intro matched
  have distinct := matched.single
  revert distinct
  decide

end X360Gadget.Transport
