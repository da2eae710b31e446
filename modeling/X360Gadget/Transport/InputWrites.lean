import X360Gadget.Transport.Configured
import X360Gadget.Transport.EndpointTable

/-!
# Which endpoint an input report goes to

`write_input_report` gives the lock back before its blocking `EP_WRITE`, so the
write uses the handle its own lookup found. That handle is still the recorded
one unless the ep0 thread detaches or configures in between.
-/

namespace X360Gadget.Transport

open X360Gadget.Descriptors X360Gadget.Kernel X360Gadget.Protocol X360Gadget.Std

variable {K : Type}

/-- The table holds `ep` for the IN endpoint of a slot. -/
def Recorded (w : Ep0World K) (slot : UInt8) (ep : Int32) : Prop :=
  ∃ bound : slot.toNat < 4, w.shared.epIn[slot.toNat] = some ep

/-- The step belongs to the ep0 thread or a reader thread. -/
def IsBackground : GadgetAction → Prop
  | .fetch _ => True
  | .epOut _ _ => True
  | _ => False

instance : DecidablePred IsBackground
  | .fetch _ => .isTrue trivial
  | .epOut _ _ => .isTrue trivial
  | .lookup _ _ | .epWrite | .poll _ _ | .waitReady | .writeDescriptor | .drop => .isFalse id

/-- The other threads leave the caller idle. -/
theorem callerIdle_of_background {os : Os K} {numInterfaces : UInt8} {desc : DescriptorBytes}
    {g next : Gadget K} {action : GadgetAction} (idle : g.CallerIdle)
    (isBackground : IsBackground action)
    (stepped : (gadget os numInterfaces desc).step g action = some next) :
    next.CallerIdle := by
  cases gadget_step stepped with
  | fetch result alive =>
      unfold stepFetch
      split <;> exact idle
  | epOut reader read live =>
      unfold stepEpOut
      split
      · split <;> exact idle
      · exact idle
      · exact idle
      · exact idle
  | _ => cases isBackground

/-- The transfers passed to `EP_WRITE` so far. -/
def epWrites (log : List Interaction) : List UsbRawInterruptEpIo :=
  log.filterMap fun
    | .called (.epWrite io) _ => some io
    | _ => none

/-- The lookup finds exactly the recorded handle. -/
theorem epInHandle_eq_some_iff {slot : UInt8} {w : Ep0World K} {ep : Int32} :
    epInHandle slot w = .ok (some ep) ↔ w.poisoned = false ∧ Recorded w slot ep := by
  unfold epInHandle Recorded
  cases poisoned : w.poisoned with
  | true => simp
  | false =>
      by_cases bound : slot.toNat < 4
      · simp [bound]
      · simp [bound]

/-- A lookup that leaves a write pending found its handle and changed nothing else. -/
theorem stepLookup_writing {g : Gadget K} {slot : UInt8} {report : InputReport}
    {write : PendingWrite} (idle : g.writing = none)
    (writing : (stepLookup g slot report).writing = some write) :
    write.slot = slot ∧ write.report = report ∧ (stepLookup g slot report).world = g.world ∧
      Recorded g.world slot write.ep := by
  unfold stepLookup at writing ⊢
  split at writing
  · next ep found =>
      cases writing
      exact ⟨rfl, rfl, rfl, (epInHandle_eq_some_iff.mp found).2⟩
  · rw [idle] at writing
    cases writing
  · have kept : g.writing = some write := writing
    rw [idle] at kept
    cases kept

section Steps

variable {os : Os K} {numInterfaces : UInt8} {desc : DescriptorBytes} {g next : Gadget K}
  {action : GadgetAction} {write : PendingWrite}

/-- A pending write was pending before a background step, or its lookup just
found the recorded handle. -/
theorem writing_step (stepped : (gadget os numInterfaces desc).step g action = some next)
    (writing : next.writing = some write) :
    (g.writing = some write ∧ IsBackground action) ∨
      (action = .lookup write.slot write.report ∧ next.world = g.world ∧
        Recorded g.world write.slot write.ep) := by
  cases gadget_step stepped with
  | fetch result alive =>
      have same : (stepFetch os numInterfaces desc g result).writing = g.writing := by
        unfold stepFetch
        split <;> rfl
      exact .inl ⟨same.symm.trans writing, trivial⟩
  | epOut reader read live =>
      have same : (stepEpOut g reader read).writing = g.writing := by
        unfold stepEpOut
        split
        · split <;> rfl
        · rfl
        · rfl
        · rfl
      exact .inl ⟨same.symm.trans writing, trivial⟩
  | lookup slot report idle =>
      obtain ⟨rfl, rfl, world, recorded⟩ := stepLookup_writing idle.2 writing
      exact .inr ⟨rfl, world, recorded⟩
  | epWrite other pending => cases writing
  | poll kind slot idle => exact absurd (idle.2.symm.trans writing) (by simp)
  | waitReady idle released => exact absurd (idle.2.symm.trans writing) (by simp)
  | writeDescriptor idle => exact absurd (idle.2.symm.trans writing) (by simp)
  | drop idle => exact absurd (idle.2.symm.trans writing) (by simp)

/-- A step adds to the log and removes nothing. -/
theorem log_of_worldStep {n : Nat} {w w' : Ep0World K} (stepped : WorldStep os n w action w') :
    ∃ entries, w'.log = w.log ++ entries := by
  cases stepped with
  | handled event w' outcome =>
      cases outcome with
      | ignored => exact ⟨_, rfl⟩
      | detached => exact ⟨_, rfl⟩
      | answered => exact ⟨_, List.append_assoc _ _ _⟩
      | configured =>
          obtain ⟨entries, draw, configure, acknowledge, log, -⟩ := configured_log os n w
          exact ⟨_, by rw [markHandled, log, List.append_assoc]⟩
  | panicked => exact ⟨[], (List.append_nil _).symm⟩
  | readerEnded => exact ⟨[], (List.append_nil _).symm⟩
  | poisoned => exact ⟨[], (List.append_nil _).symm⟩
  | wrote => exact ⟨_, rfl⟩
  | unchanged => exact ⟨[], (List.append_nil _).symm⟩

/-- Only the second half of `write_input_report` issues `EP_WRITE`. -/
theorem epWrites_of_worldStep {n : Nat} {w w' : Ep0World K}
    (stepped : WorldStep os n w action w') (other : action ≠ .epWrite) :
    epWrites w'.log = epWrites w.log := by
  have handled : ∀ event (v : Ep0World K), epWrites (markHandled event v).log = epWrites v.log := by
    intro event v
    simp [epWrites, markHandled]
  cases stepped with
  | handled event w' outcome =>
      rw [handled]
      cases outcome with
      | ignored => rfl
      | detached => rfl
      | answered attached other call reply =>
          cases call <;> first | cases reply; done | simp [epWrites]
      | configured =>
          obtain ⟨entries, draw, configure, acknowledge, log, slotCalls⟩ := configured_log os n w
          have quiet : epWrites entries = [] := by
            refine List.filterMap_eq_nil_iff.mpr fun entry member => ?_
            have slotCall := slotCalls entry member
            cases entry with
            | handled event => cases slotCall
            | called call reply => cases call <;> first | rfl | cases slotCall
          rw [log, epWrites, List.filterMap_append, List.filterMap_append, ← epWrites, ← epWrites,
            quiet]
          simp
  | panicked => rfl
  | readerEnded => rfl
  | poisoned => rfl
  | wrote => exact absurd rfl other
  | unchanged => rfl

/-- A pending write stems from a lookup of the run; since then only background
threads took steps. -/
theorem writing_of_run (few : numInterfaces.toNat ≤ 4) {kernel : K} {taken : List GadgetAction}
    (runs : (gadget os numInterfaces desc).run (.new kernel) taken = some g)
    (writing : g.writing = some write) :
    ∃ earlier gap origin, taken = earlier ++ .lookup write.slot write.report :: gap ∧
      (∀ action ∈ gap, IsBackground action) ∧
      (gadget os numInterfaces desc).run (.new kernel) earlier = some origin ∧
      Recorded origin.world write.slot write.ep ∧
      ∃ entries, g.world.log = origin.world.log ++ entries := by
  induction taken using List.reverseRecOn generalizing g with
  | nil =>
      cases runs
      cases writing
  | append_singleton taken action ih =>
      obtain ⟨before, runsBefore, stepped⟩ := (Machine.run_concat_eq_some _).mp runs
      rcases writing_step stepped writing with ⟨pending, background⟩ | ⟨rfl, world, recorded⟩
      · obtain ⟨earlier, gap, origin, rfl, backgrounds, runsEarlier, recorded, entries, log⟩ :=
          ih runsBefore pending
        obtain ⟨more, grown⟩ := log_of_worldStep (gadget_worldStep few stepped)
        refine ⟨earlier, gap ++ [action], origin, by simp, ?_, runsEarlier, recorded,
          entries ++ more, by rw [grown, log, List.append_assoc]⟩
        intro other member
        rcases List.mem_append.mp member with inGap | isLast
        · exact backgrounds other inGap
        · rw [List.mem_singleton.mp isLast]
          exact background
      · exact ⟨taken, [], before, rfl, by simp, runsBefore, recorded, [], by simp [world]⟩

/-- A recorded handle stays recorded while nothing detaches and no `EP_ENABLE` of
its endpoint succeeds. -/
theorem recorded_of_quiet {n : Nat} {w w' : Ep0World K} {slot : UInt8} {ep : Int32}
    (before : TableMatches n w) (after : TableMatches n w') (recorded : Recorded w slot ep)
    (grown : ∃ entries, w'.log = w.log ++ entries)
    (quiet : ∀ entry ∈ newEntries w w',
      isDetachEntry entry = false ∧ handleOf (epInAddr slot.toNat) entry = none) :
    Recorded w' slot ep := by
  obtain ⟨entries, log⟩ := grown
  obtain ⟨bound, found⟩ := recorded
  rw [newEntries_of_log log] at quiet
  refine ⟨bound, ?_⟩
  rw [after.epIn _ bound, log, latestHandle_append quiet, ← before.epIn _ bound, found]

/-- The handles recorded for different slots differ. -/
def DistinctHandles (w : Ep0World K) : Prop :=
  ∀ first second ep, Recorded w first ep → Recorded w second ep → first = second

/-- Every `EP_WRITE` carries its report to the handle its own lookup found, which
is still the recorded one unless the slot was detached or enabled again since. -/
theorem epWrite_uses_lookup (few : numInterfaces.toNat ≤ 4) {kernel : K}
    {taken : List GadgetAction}
    (runs : (gadget os numInterfaces desc).run (.new kernel) taken = some g)
    (stepped : (gadget os numInterfaces desc).step g action = some next) :
    (action ≠ .epWrite → epWrites next.world.log = epWrites g.world.log) ∧
      (action = .epWrite → ∃ slot report ep earlier gap origin io,
        taken = earlier ++ .lookup slot report :: gap ∧ (∀ other ∈ gap, IsBackground other) ∧
        (gadget os numInterfaces desc).run (.new kernel) earlier = some origin ∧
        Recorded origin.world slot ep ∧
        epWrites next.world.log = epWrites g.world.log ++ [io] ∧
        io.inner.ep = ep.toUInt32.toUInt16 ∧ io.inner.length = 20 ∧
        io.data.bytes.take 20 = report.asBytes ∧
        ((∀ entry ∈ newEntries origin.world g.world,
            isDetachEntry entry = false ∧ handleOf (epInAddr slot.toNat) entry = none) →
          Recorded g.world slot ep ∧
            (DistinctHandles g.world → ∀ other, Recorded g.world other ep → other = slot))) := by
  refine ⟨epWrites_of_worldStep (gadget_worldStep few stepped), ?_⟩
  rintro rfl
  cases gadget_step stepped with
  | epWrite write writing =>
      obtain ⟨earlier, gap, origin, split, backgrounds, runsEarlier, recorded, grown⟩ :=
        writing_of_run few runs writing
      have payload : (inputReportIo write.ep write.report).data.bytes.take 20 =
          write.report.asBytes := by
        have size : write.report.asBytes.length = 20 := write.report.length_asBytes
        rw [inputReportIo, IoBuffer.bytes, List.take_append_of_le_length (Nat.le_of_eq size.symm),
          List.take_of_length_le (Nat.le_of_eq size)]
      refine ⟨write.slot, write.report, write.ep, earlier, gap, origin,
        inputReportIo write.ep write.report, split, backgrounds, runsEarlier, recorded,
        by simp [epWrites], rfl, rfl, payload, ?_⟩
      intro quiet
      have still : Recorded g.world write.slot write.ep :=
        recorded_of_quiet (tableMatches_of_run few runsEarlier) (tableMatches_of_run few runs)
          recorded grown quiet
      exact ⟨still, fun distinct other also => distinct other write.slot write.ep also still⟩

end Steps

/-- A write right after its lookup goes to the recorded handle. -/
theorem epWrite_uses_lookup_undisturbed :
    ∃ g next, (gadget .counting 1 ⟨[], [], [], [], none, none, none⟩).run (.new 0)
        [.fetch (.ok (.setConfiguration 1)), .lookup 0 ⟨Vector.replicate 20 0x7F⟩] = some g ∧
      (gadget .counting 1 ⟨[], [], [], [], none, none, none⟩).step g .epWrite = some next ∧
      ∃ io ep, epWrites next.world.log = epWrites g.world.log ++ [io] ∧
        io.inner.ep = ep.toUInt32.toUInt16 ∧ Recorded g.world 0 ep := by
  have runs : (gadget .counting 1 ⟨[], [], [], [], none, none, none⟩).run (.new 0)
      [.fetch (.ok (.setConfiguration 1)), .lookup 0 ⟨Vector.replicate 20 0x7F⟩] = some _ := rfl
  refine ⟨_, _, runs, rfl, ?_⟩
  obtain ⟨slot, report, ep, earlier, gap, origin, io, split, -, runsEarlier, -, wrote, handle, -, -,
    undisturbed⟩ := (epWrite_uses_lookup (by decide) runs rfl).2 rfl
  match earlier, split with
  | [first], split =>
      obtain ⟨rfl, ⟨rfl, -⟩, rfl⟩ := by simpa using split
      cases runsEarlier
      refine ⟨io, ep, wrote, handle, (undisturbed ?_).1⟩
      rintro entry ⟨⟩
  | first :: second :: rest, split =>
      have size := congrArg List.length split
      simp at size

/-- A reset between the lookup and the write: the report goes to handle 0, which
no cell holds any more. -/
theorem epWrite_to_forgotten_handle :
    ∃ g next, (gadget .counting 1 ⟨[], [], [], [], none, none, none⟩).run (.new 0)
        [.fetch (.ok (.setConfiguration 1)), .lookup 0 ⟨Vector.replicate 20 0x7F⟩,
          .fetch (.ok .reset)] = some g ∧
      (gadget .counting 1 ⟨[], [], [], [], none, none, none⟩).step g .epWrite = some next ∧
      epWrites g.world.log = [] ∧
      epWrites next.world.log = [inputReportIo 0 ⟨Vector.replicate 20 0x7F⟩] ∧
      ∀ slot, ¬Recorded g.world slot 0 := by
  refine ⟨_, _, rfl, rfl, rfl, rfl, ?_⟩
  rintro slot ⟨bound, recorded⟩
  have cleared : (Vector.replicate 4 (none : Option Int32))[slot.toNat] = some 0 := recorded
  rw [Vector.getElem_replicate] at cleared
  cases cleared

end X360Gadget.Transport
