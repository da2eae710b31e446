import X360Gadget.Transport.ControlDiscipline

/-!
# The data a reply sends

`dataSource` is what a request reads before its length is looked at. The vendor
and descriptor branches send the prefix of it that was asked for, so their
replies grow with the length and never past it. The GET_INTERFACE branch sends
its one byte whatever the length, which is wrong for length zero only.
-/

namespace X360Gadget.Transport

open X360Gadget.Descriptors X360Gadget.Kernel X360Gadget.Std

variable {K : Type}

/-- The bytes the kernel sends for an EP0_WRITE. -/
def sent (io : UsbRawControlEpIo) : List UInt8 :=
  io.data.bytes.take io.inner.length.toNat

/-- Handling the request makes this EP0_WRITE. -/
def AnswersWith (os : Os K) (config : ConfigDescriptorSet) (ctrl : UsbCtrlrequest)
    (w : Ep0World K) (io : UsbRawControlEpIo) : Prop :=
  .ep0Write io ∈ calls (newEntries w
    (handleControl os config.numInterfaces ctrl (buildDescriptorBytes config) w).finalState)

/-- No reply is longer than asked for, and asking for more never changes the
bytes already sent. -/
structure DataStageSound (os : Os K) (config : ConfigDescriptorSet) (ctrl : UsbCtrlrequest)
    (w : Ep0World K) : Prop where
  short : ∀ io, AnswersWith os config ctrl w io →
    io.inner.length.toNat ≤ ctrl.wLength.toNat
  stable : ∀ (longer : UInt16) (w' : Ep0World K) (io io' : UsbRawControlEpIo),
    ctrl.wLength ≤ longer → AnswersWith os config ctrl w io →
      AnswersWith os config { ctrl with wLength := longer } w' io' → sent io <+: sent io'

/-! ## SET_CONFIGURATION sends nothing -/

/-- The log grew, by entries satisfying `allowed` only. -/
def LogsOnly (allowed : Interaction → Prop) (before after : Ep0World K) : Prop :=
  ∃ entries, after.log = before.log ++ entries ∧ ∀ entry ∈ entries, allowed entry

section LogsOnly

variable {allowed : Interaction → Prop} {first second third : Ep0World K}

/-- A world that stays logs nothing. -/
theorem LogsOnly.refl (w : Ep0World K) : LogsOnly allowed w w :=
  ⟨[], (List.append_nil _).symm, by simp⟩

/-- Logging only what is allowed composes. -/
theorem LogsOnly.trans (start : LogsOnly allowed first second)
    (rest : LogsOnly allowed second third) : LogsOnly allowed first third := by
  obtain ⟨entries, log, permitted⟩ := start
  obtain ⟨more, log', permitted'⟩ := rest
  refine ⟨entries ++ more, by rw [log', log, List.append_assoc], ?_⟩
  intro entry member
  rcases List.mem_append.mp member with early | late
  · exact permitted entry early
  · exact permitted' entry late

/-- A call that is allowed logs what is allowed. -/
theorem LogsOnly.issue (os : Os K) (w : Ep0World K) (call : Syscall)
    (permitted : allowed (.called call (w.reply os call))) :
    LogsOnly allowed w (w.issue os call) := by
  refine ⟨_, rfl, ?_⟩
  intro entry member
  rw [List.mem_singleton.mp member]
  exact permitted

/-- Only the log matters. -/
theorem LogsOnly.of_log_eq (logged : LogsOnly allowed first second)
    (same : third.log = second.log) : LogsOnly allowed first third := by
  obtain ⟨entries, log, permitted⟩ := logged
  exact ⟨entries, same.trans log, permitted⟩

end LogsOnly

/-- The entry is no EP0_WRITE. -/
def IsNoWrite : Interaction → Prop
  | .called (.ep0Write _) _ => False
  | _ => True

/-- Enabling an IN endpoint writes nothing to EP0. -/
theorem enableEpIn_logsOnly (os : Os K) (i : Nat) (w : Ep0World K) :
    LogsOnly IsNoWrite w (enableEpIn os i w).finalState := by
  have issued : LogsOnly IsNoWrite w (w.issue os (.epEnable (epInDesc i))) :=
    .issue os w _ trivial
  simp only [enableEpIn]
  split
  · split
    · exact issued.of_log_eq rfl
    · exact issued
  · exact issued

/-- Enabling an OUT endpoint writes nothing to EP0. -/
theorem enableEpOut_logsOnly (os : Os K) (i : Nat) (w : Ep0World K) :
    LogsOnly IsNoWrite w (enableEpOut os i w).finalState := by
  have issued : LogsOnly IsNoWrite w (w.issue os (.epEnable (epOutDesc i))) :=
    .issue os w _ trivial
  simp only [enableEpOut]
  split
  · next h answer =>
      split
      · have spawned : LogsOnly IsNoWrite ((w.issue os (.epEnable (epOutDesc i))).setEpOut i h)
            (((w.issue os (.epEnable (epOutDesc i))).setEpOut i h).issue os
              (.spawnEpOut (UInt8.ofNat i) h)) := .issue os _ _ trivial
        have recorded : LogsOnly IsNoWrite ((w.issue os (.epEnable (epOutDesc i))).setEpOut i h)
            (((w.issue os (.epEnable (epOutDesc i))).setEpOut i h).spawnEpOut os
              (UInt8.ofNat i) h) := spawned.of_log_eq (by simp)
        exact issued.trans recorded
      · exact issued
  · exact issued

/-- A sequence logs what its parts log, also when the first one panics. -/
theorem LogsOnly.bind {allowed : Interaction → Prop} {w : Ep0World K}
    {first : Outcome (Ep0World K) (Ep0World K)}
    {next : Ep0World K → Outcome (Ep0World K) (Ep0World K)}
    (start : LogsOnly allowed w first.finalState)
    (rest : ∀ w', LogsOnly allowed w' (next w').finalState) :
    LogsOnly allowed w (first >>= next).finalState := by
  cases first with
  | ok w' => exact start.trans (rest w')
  | error panic => exact start

/-- Enabling the slots writes nothing to EP0. -/
theorem enableSlots_logsOnly (os : Os K) (slots : List Nat) (w : Ep0World K) :
    LogsOnly IsNoWrite w (enableSlots os slots w).finalState := by
  induction slots generalizing w with
  | nil => exact .refl w
  | cons i rest ih =>
      refine LogsOnly.bind (enableEpIn_logsOnly os i w) fun w' => ?_
      exact LogsOnly.bind (enableEpOut_logsOnly os i w') ih

/-- The end of a configuration writes nothing to EP0. -/
theorem finishConfiguration_logsOnly (os : Os K) (w : Ep0World K) :
    LogsOnly IsNoWrite w (finishConfiguration os w) := by
  obtain ⟨draw, configure, acknowledge, log⟩ := finishConfiguration_log os w
  refine ⟨_, log, ?_⟩
  simp [IsNoWrite]

/-- SET_CONFIGURATION makes no EP0_WRITE, whatever the number of interfaces. -/
theorem setConfiguration_logsOnly (os : Os K) (numInterfaces : UInt8) (w : Ep0World K) :
    LogsOnly IsNoWrite w (setConfiguration os numInterfaces w).finalState := by
  have looped := enableSlots_logsOnly os (List.range numInterfaces.toNat) w
  unfold setConfiguration
  split
  · exact .refl w
  · cases enabled : enableSlots os (List.range numInterfaces.toNat) w with
    | ok w' =>
        rw [enabled] at looped
        exact looped.trans (finishConfiguration_logsOnly os w')
    | error panic =>
        rw [enabled] at looped
        exact looped.of_log_eq rfl

/-! ## What the other requests send -/

/-- Only a request other than SET_CONFIGURATION whose reply is an EP0_WRITE is
answered with one. -/
theorem answersWith_iff {os : Os K} {config : ConfigDescriptorSet} {ctrl : UsbCtrlrequest}
    {w : Ep0World K} {io : UsbRawControlEpIo} : AnswersWith os config ctrl w io ↔
      ¬IsSetConfiguration ctrl ∧
        controlReply (buildDescriptorBytes config) ctrl = some (.ep0Write io) := by
  unfold AnswersWith
  by_cases set : IsSetConfiguration ctrl
  · simp only [set, not_true_eq_false, false_and, iff_false]
    rw [handleControl_of_setConfiguration set]
    obtain ⟨entries, log, noWrite⟩ := setConfiguration_logsOnly os config.numInterfaces w
    rw [newEntries_of_log log]
    intro member
    obtain ⟨entry, found, isCall⟩ := List.mem_filterMap.mp member
    have permitted := noWrite entry found
    cases entry with
    | handled event => cases isCall
    | called call reply =>
        cases isCall
        exact permitted
  · rw [handleControl_of_not_setConfiguration set]
    cases controlReply (buildDescriptorBytes config) ctrl with
    | none => simp [set, newEntries, calls]
    | some call => simp [set, newEntries, calls, eq_comm]

/-- A standard GET_INTERFACE request. -/
def IsGetInterface (ctrl : UsbCtrlrequest) : Prop :=
  ctrl.bRequestType &&& usbTypeMask = usbTypeStandard ∧ ctrl.bRequest = usbReqGetInterface

instance (ctrl : UsbCtrlrequest) : Decidable (IsGetInterface ctrl) :=
  inferInstanceAs (Decidable (_ ∧ _))

/-- The bytes a request reads, before its length is looked at. -/
def dataSource (desc : DescriptorBytes) (ctrl : UsbCtrlrequest) : Option (List UInt8) :=
  if ctrl.bRequestType &&& usbTypeMask = usbTypeVendor then
    if ctrl.bRequestType &&& usbDirIn ≠ 0 then some (List.replicate 16384 0) else none
  else if ctrl.bRequestType &&& usbTypeMask ≠ usbTypeStandard then none
  else if ctrl.bRequest = usbReqGetDescriptor then descriptorData desc ctrl.wValue
  else if ctrl.bRequest = usbReqGetInterface then some [0]
  else none

/-- A vendor reply is the part of the zeroed buffer that was asked for. -/
theorem sent_zeros (wLength : UInt16) :
    (UInt32.ofNat (min wLength.toNat 16384)).toNat =
        min (List.replicate 16384 (0 : UInt8)).length wLength.toNat ∧
      sent (.ofLength (UInt32.ofNat (min wLength.toNat 16384)) .zeroed) =
        (List.replicate 16384 0).take wLength.toNat := by
  have length : (UInt32.ofNat (min wLength.toNat 16384)).toNat = min wLength.toNat 16384 := by
    rw [UInt32.toNat_ofNat']
    omega
  refine ⟨?_, ?_⟩
  · rw [List.length_replicate, Nat.min_comm 16384]
    exact length
  · change (List.replicate 16384 0).take (UInt32.ofNat _).toNat = _
    rw [length, List.take_eq_take_iff, List.length_replicate]
    omega

/-- The prefix that was asked for is sent, except by GET_INTERFACE, which sends
its one byte. -/
theorem sent_of_controlReply {desc : DescriptorBytes} {ctrl : UsbCtrlrequest}
    {io : UsbRawControlEpIo} (replied : controlReply desc ctrl = some (.ep0Write io)) :
    ∃ source, dataSource desc ctrl = some source ∧
      (IsGetInterface ctrl → io.inner.length = 1 ∧ sent io = source) ∧
      (¬IsGetInterface ctrl → io.inner.length.toNat = min source.length ctrl.wLength.toNat ∧
        sent io = source.take ctrl.wLength.toNat) := by
  unfold controlReply at replied
  unfold dataSource
  by_cases vendor : ctrl.bRequestType &&& usbTypeMask = usbTypeVendor
  · have notInterface : ¬IsGetInterface ctrl := by
      rintro ⟨standard, -⟩
      exact absurd (vendor.symm.trans standard) (by decide)
    rw [if_pos vendor] at replied ⊢
    by_cases isIn : ctrl.bRequestType &&& usbDirIn ≠ 0
    · rw [if_pos isIn] at replied ⊢
      cases replied
      exact ⟨_, rfl, fun interface => absurd interface notInterface,
        fun _ => sent_zeros ctrl.wLength⟩
    · rw [if_neg isIn] at replied
      cases replied
  rw [if_neg vendor] at replied ⊢
  by_cases standard : ctrl.bRequestType &&& usbTypeMask = usbTypeStandard
  · rw [if_neg (not_not.mpr standard)] at replied ⊢
    by_cases get : ctrl.bRequest = usbReqGetDescriptor
    · have notInterface : ¬IsGetInterface ctrl := by
        rintro ⟨-, interface⟩
        exact absurd (get.symm.trans interface) (by decide)
      rw [if_pos get] at replied ⊢
      cases data : descriptorData desc ctrl.wValue with
      | none =>
          rw [data] at replied
          cases replied
      | some bytes =>
          rw [data] at replied
          obtain ⟨other, same, length, prefixSent⟩ := descriptorReply_sends replied
          cases same
          exact ⟨bytes, rfl, fun interface => absurd interface notInterface,
            fun _ => ⟨length, prefixSent⟩⟩
    rw [if_neg get] at replied ⊢
    by_cases interface : ctrl.bRequest = usbReqGetInterface
    · rw [if_pos interface] at replied ⊢
      cases replied
      exact ⟨[0], rfl, fun _ => ⟨rfl, rfl⟩, fun other => absurd ⟨standard, interface⟩ other⟩
    · rw [if_neg interface] at replied
      cases replied
  · rw [if_pos standard] at replied
    cases replied

/-- A request that asks for more of the same is answered with more of the same. -/
theorem sent_prefix {desc : DescriptorBytes} {ctrl : UsbCtrlrequest} {longer : UInt16}
    {io io' : UsbRawControlEpIo} (more : ctrl.wLength ≤ longer)
    (replied : controlReply desc ctrl = some (.ep0Write io))
    (replied' : controlReply desc { ctrl with wLength := longer } = some (.ep0Write io')) :
    sent io <+: sent io' := by
  obtain ⟨source, read, whole, part⟩ := sent_of_controlReply replied
  obtain ⟨source', read', whole', part'⟩ := sent_of_controlReply replied'
  have same : source' = source := Option.some.inj (read'.symm.trans read)
  subst same
  by_cases interface : IsGetInterface ctrl
  · have equal : sent io = sent io' := (whole interface).2.trans (whole' interface).2.symm
    exact equal ▸ List.prefix_rfl
  · rw [(part interface).2, (part' interface).2]
    exact List.take_prefix_take_left (UInt16.le_iff_toNat_le.mp more)

/-- GET_INTERFACE is answered with one zero byte. -/
theorem answersWith_getInterface {os : Os K} {config : ConfigDescriptorSet}
    {ctrl : UsbCtrlrequest} {w : Ep0World K} (interface : IsGetInterface ctrl) :
    AnswersWith os config ctrl w (.ofLength 1 ⟨[0], by decide⟩) := by
  have notVendor : usbTypeStandard ≠ usbTypeVendor := by decide
  have notGet : usbReqGetInterface ≠ usbReqGetDescriptor := by decide
  rw [answersWith_iff]
  refine ⟨?_, ?_⟩
  · rintro ⟨-, set⟩
    exact absurd (interface.2.symm.trans set) (by decide)
  · rw [controlReply, interface.1, interface.2, if_neg notVendor, if_neg (not_not.mpr rfl),
      if_neg notGet, if_pos rfl]

/-- The data stage of a request is sound unless it is a GET_INTERFACE for no bytes. -/
theorem dataStageSound_iff (os : Os K) (config : ConfigDescriptorSet) (ctrl : UsbCtrlrequest)
    (w : Ep0World K) :
    DataStageSound os config ctrl w ↔ ¬(IsGetInterface ctrl ∧ ctrl.wLength = 0) := by
  constructor
  · rintro sound ⟨interface, noBytes⟩
    have atMost := sound.short _ (answersWith_getInterface interface)
    rw [noBytes] at atMost
    exact absurd atMost (by decide)
  · intro supported
    refine ⟨?_, ?_⟩
    · intro io answers
      obtain ⟨source, -, whole, part⟩ := sent_of_controlReply (answersWith_iff.mp answers).2
      by_cases interface : IsGetInterface ctrl
      · have asked : ctrl.wLength.toNat ≠ 0 := fun none =>
          supported ⟨interface, UInt16.toNat_inj.mp none⟩
        rw [(whole interface).1]
        exact Nat.pos_of_ne_zero asked
      · rw [(part interface).1]
        exact Nat.min_le_right _ _
    · intro longer w' io io' more answers answers'
      exact sent_prefix more (answersWith_iff.mp answers).2 (answersWith_iff.mp answers').2

/-- A GET_INTERFACE for no bytes is answered with one. -/
theorem not_dataStageSound_getInterface :
    ∃ config, ConfigDescriptorSet.new 1 = .ok config ∧
      ¬DataStageSound .counting config ⟨0x81, usbReqGetInterface, 0, 0, 0⟩ (Ep0World.new 0) := by
  refine ⟨_, rfl, ?_⟩
  intro sound
  exact absurd (sound.short _ (answersWith_getInterface (by decide))) (by decide)

end X360Gadget.Transport
