import X360Gadget.Capi.Open
import X360Gadget.Capi.Send
import X360Gadget.Session.HardwareRuns
import X360Gadget.Transport.ControlBounds

/-!
# Integer arguments of the C interface

Every `c_int` is cut to its low byte before it is checked. A receiver then has as
many slots as the low byte of `num_slots` says, and a call reaches the slot the
low byte of `slot` names, so an argument out of range is honoured exactly where
its low byte happens to be harmless.
-/

namespace X360Gadget.Capi

open X360Gadget.Descriptors X360Gadget.Kernel X360Gadget.Protocol X360Gadget.Session
open X360Gadget.Std X360Gadget.Transport WirelessReceiver RawGadgetTransport

variable {K : Type}

/-! ## The number of slots -/

/-- Whatever else `x360_open` meets, a receiver has the number of slots asked for,
and that is one to four. -/
def OpensExactly (K : Type) (numSlots : Int32) : Prop :=
  ∀ (env : OpenEnvironment K) (driver device : Option CString) (fds after : Finset Int32)
    (receiver : WirelessReceiver (RawGadgetTransport K)),
    x360Open env numSlots driver device fds = .ok (.ok (some receiver), after) →
      (1 ≤ numSlots.toInt ∧ numSlots.toInt ≤ 4) ∧
        (receiver.numSlots.toNat : Int) = numSlots.toInt ∧
          (receiver.slots.length : Int) = numSlots.toInt

section Open

variable {env : OpenEnvironment K} {numSlots : Int32} {driver device : Option CString}
  {fds after : Finset Int32} {receiver : WirelessReceiver (RawGadgetTransport K)}

/-- A receiver from `x360_open` is new and configured by the low byte. -/
theorem opened_of_x360Open
    (opened : x360Open env numSlots driver device fds = .ok (.ok (some receiver), after)) :
    ∃ config fd, ConfigDescriptorSet.new (asU8 numSlots) = .ok config ∧
      receiver = .new config (.start config fd env.kernel) := by
  obtain ⟨handle, left, called, outcome⟩ := x360Open_outcome env numSlots driver device fds
  cases called.symm.trans opened
  cases outcome with
  | opened config accepted clean opened => exact ⟨config, _, accepted, rfl⟩

/-- The low byte is what `ConfigDescriptorSet::new` checks. -/
theorem asU8_range_iff :
    (1 ≤ asU8 numSlots ∧ asU8 numSlots ≤ 4) ↔
      1 ≤ numSlots.toInt % 256 ∧ numSlots.toInt % 256 ≤ 4 := by
  rw [UInt8.le_iff_toNat_le, UInt8.le_iff_toNat_le, ← toNat_asU8]
  change 1 ≤ (asU8 numSlots).toNat ∧ (asU8 numSlots).toNat ≤ 4 ↔ _
  omega

/-- Nothing but the low byte keeps an opening from succeeding. -/
theorem exists_opened (kernel : K) (accepted : 1 ≤ asU8 numSlots ∧ asU8 numSlots ≤ 4) :
    ∃ receiver after, x360Open ⟨some "udc", .succeeding 3, kernel⟩ numSlots none none ∅ =
      .ok (.ok (some receiver), after) := by
  obtain ⟨config, built⟩ : ∃ config, ConfigDescriptorSet.new (asU8 numSlots) = .ok config :=
    ⟨_, ConfigDescriptorSet.new_eq_ok_iff.mpr ⟨accepted, rfl⟩⟩
  have arguments : openArguments (some "udc") numSlots none none = some (config, "udc", "udc") := by
    rw [openArguments, built]
    rfl
  rw [x360Open, arguments]
  exact ⟨_, _, rfl⟩

/-- The number of slots is honoured exactly when its low byte is refused or it is
in range itself. -/
theorem opensExactly_iff (kernel : K) : OpensExactly K numSlots ↔
    (1 ≤ numSlots.toInt % 256 ∧ numSlots.toInt % 256 ≤ 4 →
      1 ≤ numSlots.toInt ∧ numSlots.toInt ≤ 4) := by
  rw [← asU8_range_iff]
  constructor
  · intro honoured accepted
    obtain ⟨receiver, after, opened⟩ := exists_opened kernel accepted
    exact (honoured _ _ _ _ _ receiver opened).1
  · intro inRange env driver device fds after receiver opened
    obtain ⟨config, fd, built, rfl⟩ := opened_of_x360Open opened
    obtain ⟨accepted, rfl⟩ := ConfigDescriptorSet.new_eq_ok_iff.mp built
    have range := inRange accepted
    have count := toNat_asU8 numSlots
    refine ⟨range, ?_, ?_⟩
    · change ((asU8 numSlots).toNat : Int) = numSlots.toInt
      omega
    · rw [WirelessReceiver.new, List.length_map, List.length_range]
      change ((asU8 numSlots).toNat : Int) = numSlots.toInt
      omega

end Open

/-! ## The slot of a call -/

/-- A call on a live handle hands the transport no report for a slot of the receiver,
makes no EP_WRITE, and takes no report that waits for a slot of the receiver. -/
structure Untouched {Code : Type}
    (call : Method (Option (WirelessReceiver (Recording (RawGadgetTransport K)))) Empty Code)
    (before : WirelessReceiver (Recording (RawGadgetTransport K))) : Prop where
  handed : ∀ exchange ∈ exchangesOf call before, ∀ interface report,
    exchange.call = .writeInputReport interface report → ¬interface < before.numSlots
  written : ∀ after, call.stateAfter (some before) = some after →
    epWrites after.transport.transport.gadget.world.log =
      epWrites before.transport.transport.gadget.world.log
  kept : ∀ after, call.stateAfter (some before) = some after → ∀ kind slot, slot < before.numSlots →
    waiting kind after.transport.transport slot = waiting kind before.transport.transport slot

section Calls

variable {os : Os K} {self : WirelessReceiver (Recording (RawGadgetTransport K))} {Code : Type}
  {call : Method (Option (WirelessReceiver (Recording (RawGadgetTransport K)))) Empty Code}

/-- A call that changes nothing. -/
theorem untouched_of_same (same : call.stateAfter (some self) = some self) :
    Untouched call self := by
  have nothing : exchangesOf call self = [] := exchangesOf_eq same (List.append_nil _).symm
  refine ⟨?_, ?_, ?_⟩
  · rw [nothing]
    rintro exchange ⟨⟩
  · intro after left
    cases same.symm.trans left
    rfl
  · intro after left
    cases same.symm.trans left
    exact fun _ _ _ => rfl

/-- A call that makes one call of the transport. -/
theorem untouched_iff_of_recorded {after : RawGadgetTransport K} {exchange : Exchange}
    (left : call.stateAfter (some self) =
      some { self with transport := ⟨after, self.transport.exchanges ++ [exchange]⟩ }) :
    Untouched call self ↔
      (∀ interface report, exchange.call = .writeInputReport interface report →
        ¬interface < self.numSlots) ∧
      epWrites after.gadget.world.log = epWrites self.transport.transport.gadget.world.log ∧
      ∀ kind slot, slot < self.numSlots →
        waiting kind after slot = waiting kind self.transport.transport slot := by
  have calls : exchangesOf call self = [exchange] := exchangesOf_eq left rfl
  constructor
  · intro untouched
    have handed := untouched.handed
    rw [calls] at handed
    exact ⟨handed exchange List.mem_cons_self, untouched.written _ left, untouched.kept _ left⟩
  · rintro ⟨handed, written, kept⟩
    refine ⟨?_, ?_, ?_⟩
    · intro entry member
      rw [calls, List.mem_singleton] at member
      rw [member]
      exact handed
    · intro next reached
      cases left.symm.trans reached
      exact written
    · intro next reached
      cases left.symm.trans reached
      exact kept

/-- The low byte of a slot names a slot of the receiver. -/
theorem asU8_lt_iff {slot : Int32} : asU8 slot < self.numSlots ↔
    slot.toInt % 256 < self.numSlots.toNat := by
  rw [UInt8.lt_iff_toNat_lt, ← toNat_asU8]
  omega

/-- A poll leaves the receiver's slots alone exactly when it polls another index or
finds nothing. -/
theorem untouched_poll_iff (few : self.numSlots.toNat ≤ 4) (kind : ReportKind) {slot : Int32}
    {exchange : Exchange}
    (isPoll : ∀ interface report, exchange.call ≠ .writeInputReport interface report)
    (left : call.stateAfter (some self) = some { self with transport :=
      ⟨((hardware os).poll kind (asU8 slot)).stateAfter self.transport.transport,
        self.transport.exchanges ++ [exchange]⟩ }) :
    Untouched call self ↔ ¬(slot.toInt % 256 < self.numSlots.toNat ∧
      waiting kind self.transport.transport (asU8 slot) ≠ none) := by
  have taken := (outputCells_hardware os).taken kind (asU8 slot) self.transport.transport
  rw [untouched_iff_of_recorded left, ← asU8_lt_iff, not_and, not_not]
  constructor
  · rintro ⟨-, -, kept⟩ below
    have inRange : (asU8 slot).toNat < 4 := by
      rw [UInt8.lt_iff_toNat_lt] at below
      omega
    have same := kept kind (asU8 slot) below
    rw [taken kind (asU8 slot) inRange, if_pos ⟨rfl, rfl⟩] at same
    exact same.symm
  · intro empty
    refine ⟨fun interface report same => absurd same (isPoll interface report), ?_, ?_⟩
    · rw [stateAfter_poll]
    · intro other index below
      have inRange : index.toNat < 4 := by
        rw [UInt8.lt_iff_toNat_lt] at below
        omega
      rw [taken other index inRange]
      split
      · next same =>
          obtain ⟨rfl, rfl⟩ := same
          exact (empty below).symm
      · rfl

/-- A write leaves the receiver's slots alone exactly when its index is none of
them; such an index has no handle. -/
theorem untouched_write_iff {slot : Int32} {report : InputReport} {exchange : Exchange}
    (absent : ¬asU8 slot < self.numSlots → ∀ ep,
      epInHandle (asU8 slot) self.transport.transport.gadget.world ≠ .ok (some ep))
    (isWrite : exchange.call = .writeInputReport (asU8 slot) report)
    (left : call.stateAfter (some self) = some { self with transport :=
      ⟨((hardware os).writeInputReport (asU8 slot) report).stateAfter self.transport.transport,
        self.transport.exchanges ++ [exchange]⟩ }) :
    Untouched call self ↔ ¬slot.toInt % 256 < self.numSlots.toNat := by
  rw [untouched_iff_of_recorded left, ← asU8_lt_iff]
  constructor
  · rintro ⟨handed, -, -⟩
    exact handed (asU8 slot) report isWrite
  · intro beyond
    rw [stateAfter_writeInputReport]
    refine ⟨?_, ?_, fun _ _ _ => rfl⟩
    · intro interface other same
      obtain ⟨rfl, -⟩ := TransportCall.writeInputReport.inj (isWrite.symm.trans same)
      exact beyond
    · rw [log_worldAfterWrite (absent beyond)]

end Calls

/-! ## The three calls -/

section Arguments

variable {os : Os K} {self : WirelessReceiver (Recording (RawGadgetTransport K))}

/-- A send has no effect exactly when the narrowed slot does not exist or the data
is short. -/
theorem untouched_x360Send_iff (slot : Int32) (data : Option (List UInt8))
    (absent : ¬asU8 slot < self.numSlots → ∀ ep,
      epInHandle (asU8 slot) self.transport.transport.gadget.world ≠ .ok (some ep)) :
    Untouched (x360Send (recording (hardware os)) slot data) self ↔
      ¬(slot.toInt % 256 < self.numSlots.toNat ∧
        ∃ bytes, data = some bytes ∧ 20 ≤ bytes.length) := by
  cases data with
  | none =>
      refine iff_of_true (untouched_of_same rfl) ?_
      rintro ⟨-, bytes, ⟨⟩, -⟩
  | some bytes =>
      cases parsed : InputReport.fromBytes bytes with
      | none =>
          have short := InputReport.fromBytes_eq_none_iff.mp parsed
          refine iff_of_true (untouched_of_same ?_) ?_
          · by_cases empty : bytes.length = 0
            · exact Method.stateAfter_of_eq_ok (x360Send_empty _ self slot empty)
            · have called := x360Send_nonempty (recording (hardware os)) self slot empty
              rw [stateAfter_through _ _ called, sendRawInput, parsed]
              rfl
          · rintro ⟨-, other, same, long⟩
            cases same
            exact absurd long (Nat.not_le_of_lt short)
      | some report =>
          have long : 20 ≤ bytes.length := (InputReport.fromBytes_eq_some_iff.mp parsed).1
          have nonempty : bytes.length ≠ 0 := by omega
          have called := x360Send_nonempty (recording (hardware os)) self slot nonempty
          have left := stateAfter_through _ _ called
          have recorded : ((recording (hardware os)).writeInputReport (asU8 slot) report).stateAfter
              self.transport = _ := stateAfter_record _ _ _
          rw [sendRawInput, parsed] at left
          dsimp only at left
          rw [stateAfter_onTransport, recorded] at left
          rw [untouched_write_iff absent rfl left]
          apply not_congr
          constructor
          · exact fun below => ⟨below, bytes, rfl, long⟩
          · exact fun condition => condition.1

/-- A poll has no effect exactly when the narrowed slot has no rumble to return. -/
theorem untouched_x360PollRumble_iff (few : self.numSlots.toNat ≤ 4) (slot : Int32)
    (leftOut rightOut : Bool) :
    Untouched (x360PollRumble (recording (hardware os)) slot leftOut rightOut) self ↔
      ¬(slot.toInt % 256 < self.numSlots.toNat ∧ (leftOut ∧ rightOut) ∧
        waiting .rumble self.transport.transport (asU8 slot) ≠ none) := by
  by_cases null : ¬leftOut ∨ ¬rightOut
  · have called : x360PollRumble (recording (hardware os)) slot leftOut rightOut (some self) =
        .ok (.ok (-1, none), some self) := by
      simp only [x360PollRumble, if_pos null]
    refine iff_of_true (untouched_of_same (Method.stateAfter_of_eq_ok called)) ?_
    rintro ⟨-, ⟨left, right⟩, -⟩
    rcases null with noLeft | noRight
    · exact noLeft left
    · exact noRight right
  · have called : x360PollRumble (recording (hardware os)) slot leftOut rightOut (some self) =
        through (pollRumble (recording (hardware os)) (asU8 slot)) rumbleCode self := by
      simp only [x360PollRumble, if_neg null]
    have left := stateAfter_through _ _ called
    have recorded : ((recording (hardware os)).pollRumble (asU8 slot)).stateAfter self.transport =
        _ := stateAfter_record _ _ _
    have pointers : leftOut ∧ rightOut := by simpa using null
    rw [pollRumble, stateAfter_onTransport, recorded] at left
    rw [untouched_poll_iff few .rumble (by simp) left, and_iff_right pointers]

/-- A poll has no effect exactly when the narrowed slot has no animation to return. -/
theorem untouched_x360PollLed_iff (few : self.numSlots.toNat ≤ 4) (slot : Int32) :
    Untouched (x360PollLed (recording (hardware os)) slot) self ↔
      ¬(slot.toInt % 256 < self.numSlots.toNat ∧
        waiting .led self.transport.transport (asU8 slot) ≠ none) := by
  have called : x360PollLed (recording (hardware os)) slot (some self) =
      through (pollLed (recording (hardware os)) (asU8 slot)) ledCode self := rfl
  have left := stateAfter_through _ _ called
  have recorded : ((recording (hardware os)).pollLed (asU8 slot)).stateAfter self.transport = _ :=
    stateAfter_record _ _ _
  rw [pollLed, stateAfter_onTransport, recorded] at left
  exact untouched_poll_iff few .led (by simp) left

end Arguments

/-! ## Every receiver that was opened -/

/-- A receiver whose calls are recorded from now on. -/
def observed {T : Type} (receiver : WirelessReceiver T) : WirelessReceiver (Recording T) where
  config := receiver.config
  slots := receiver.slots
  transport := ⟨receiver.transport, []⟩

/-- `num_slots` is honoured exactly when its low byte is refused or it is in range
itself. In every state of every receiver so opened, a call with a slot out of
range leaves the receiver's slots alone exactly when its low byte names none of
them, it has nothing to send, or nothing waits there. -/
theorem fullWidth_iff (os : Os K) (kernel : K) (numSlots : Int32) :
    (OpensExactly K numSlots ↔
      (1 ≤ numSlots.toInt % 256 ∧ numSlots.toInt % 256 ≤ 4 →
        1 ≤ numSlots.toInt ∧ numSlots.toInt ≤ 4)) ∧
    ∀ (env : OpenEnvironment K) driver device fds after receiver,
      x360Open env numSlots driver device fds = .ok (.ok (some receiver), after) →
        ∀ self, Reachable (recording (hardware os)) (recorded (background os))
            (observed receiver) self →
          ∀ slot : Int32, ¬(0 ≤ slot.toInt ∧ slot.toInt < numSlots.toInt) →
            (∀ data, Untouched (x360Send (recording (hardware os)) slot data) self ↔
              ¬(slot.toInt % 256 < self.numSlots.toNat ∧
                ∃ bytes, data = some bytes ∧ 20 ≤ bytes.length)) ∧
            (∀ leftOut rightOut,
              Untouched (x360PollRumble (recording (hardware os)) slot leftOut rightOut) self ↔
                ¬(slot.toInt % 256 < self.numSlots.toNat ∧ (leftOut ∧ rightOut) ∧
                  waiting .rumble self.transport.transport (asU8 slot) ≠ none)) ∧
            (Untouched (x360PollLed (recording (hardware os)) slot) self ↔
              ¬(slot.toInt % 256 < self.numSlots.toNat ∧
                waiting .led self.transport.transport (asU8 slot) ≠ none)) := by
  refine ⟨opensExactly_iff kernel, ?_⟩
  intro env driver device fds after receiver opened self reached slot _
  obtain ⟨config, fd, built, rfl⟩ := opened_of_x360Open opened
  change Reachable _ _ (onHardware config fd env.kernel) self at reached
  have sameConfig : self.config = config := reached.slots.1
  have few : config.numInterfaces.toNat ≤ 4 := numInterfaces_le_of_built (.fresh built)
  have fewSelf : self.numSlots.toNat ≤ 4 := by
    rw [WirelessReceiver.numSlots, sameConfig]
    exact few
  refine ⟨?_, ?_, untouched_x360PollLed_iff fewSelf slot⟩
  · intro data
    apply untouched_x360Send_iff
    intro beyond
    rw [WirelessReceiver.numSlots, sameConfig] at beyond
    exact epInHandle_of_reachable few reached beyond
  · exact untouched_x360PollRumble_iff fewSelf slot

/-- The host configures a receiver with one slot and sends it a rumble packet. Slot 256
then stands for slot 0: 19 bytes are not sent there, but 20 are, and the report that
waits is taken. -/
theorem fullWidth_iff_narrowed : ∃ receiver after self,
    x360Open (⟨some "udc", .succeeding 3, 0⟩ : OpenEnvironment Int32) 1 none none ∅ =
        .ok (.ok (some receiver), after) ∧
      Reachable (recording (hardware .counting)) (recorded (background .counting))
        (observed receiver) self ∧
      Untouched (x360Send (recording (hardware .counting)) 256 (some (List.replicate 19 0)))
        self ∧
      ¬Untouched (x360Send (recording (hardware .counting)) 256 (some (List.replicate 20 0)))
        self ∧
      ¬Untouched (x360PollRumble (recording (hardware .counting)) 256 true true) self := by
  have opened : x360Open (⟨some "udc", .succeeding 3, 0⟩ : OpenEnvironment Int32) 1 none none ∅ =
      .ok (.ok (some _), _) := rfl
  have fresh : Reachable (recording (hardware .counting)) (recorded (background .counting))
      (observed (.new oneSlot (.start oneSlot 3 0)))
      (observed (.new oneSlot (.start oneSlot 3 0))) := .start
  have configured := reachable_background fresh (.fetch (.ok (.setConfiguration 1))) trivial rfl
  have received := reachable_background configured
    (.epOut ⟨0, 1⟩ (packetRead [0, 8, 0, 1, 2, 0, 0, 0] (by decide))) trivial rfl
  obtain ⟨sends, polls, -⟩ :=
    (fullWidth_iff .counting 0 1).2 _ _ _ _ _ _ opened _ received 256 (by decide)
  refine ⟨_, _, _, opened, received, ?_, ?_, ?_⟩
  · rw [sends]
    rintro ⟨-, bytes, ⟨⟩, long⟩
    exact absurd long (by decide)
  · rw [sends, not_not]
    exact ⟨by decide, _, rfl, by decide⟩
  · rw [polls, not_not]
    exact ⟨by decide, ⟨rfl, rfl⟩, by decide⟩

/-- 257 slots are opened as one, and of a receiver with one slot, slot 256 is sent
to slot 0. -/
theorem not_fullWidth_257 : ¬OpensExactly Int32 257 ∧ ∃ receiver after,
    x360Open (⟨some "udc", .succeeding 3, 0⟩ : OpenEnvironment Int32) 1 none none ∅ =
        .ok (.ok (some receiver), after) ∧
      ¬Untouched (x360Send (recording (hardware .counting)) 256 (some (List.replicate 20 0)))
        (observed receiver) := by
  refine ⟨?_, _, _, rfl, ?_⟩
  · rw [opensExactly_iff 0]
    decide
  · intro untouched
    exact untouched.handed _ List.mem_cons_self 0 _ rfl (by decide)

end X360Gadget.Capi
