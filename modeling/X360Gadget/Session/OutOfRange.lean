import X360Gadget.Session.HardwareRuns
import X360Gadget.Session.Mock
import X360Gadget.Transport.ControlBounds

/-!
# Operations on an index without a slot

`send_input` looks its slot up first and so does nothing for such an index. The
other operations hand the index on: a long raw packet reaches the transport, and
a poll takes what the transport holds there or panics outside its arrays.
-/

namespace X360Gadget.Session

open X360Gadget.Descriptors X360Gadget.Kernel X360Gadget.Protocol X360Gadget.Std
open X360Gadget.Transport WirelessReceiver

variable {T E K : Type}

/-- The call did not panic and did not return a report. -/
def ReturnsNothing {Report : Type} (result : Option (Except E (Option Report))) : Prop :=
  ∃ returned, result = some returned ∧ ∀ report, returned ≠ .ok (some report)

/-- An operation on a slot index. -/
inductive SlotOperation where
  | sendInput
  | sendRawInput (data : List UInt8)
  | poll (kind : ReportKind)
  | pollOutput
deriving DecidableEq, Repr

/-- The operation at an index. -/
def SlotOperation.at (index : UInt8) : SlotOperation → Operation
  | .sendInput => .sendInput index
  | .sendRawInput data => .sendRawInput index data
  | .poll .rumble => .pollRumble index
  | .poll .led => .pollLed index
  | .pollOutput => .pollOutput index

/-- The operation returns `Ok(())`, `Ok(None)` or an error. -/
def Quiet (transport : Transport T E) (self : WirelessReceiver T) (index : UInt8) :
    SlotOperation → Prop
  | .sendInput => (sendInput transport index).result self ≠ none
  | .sendRawInput data => (sendRawInput transport index data).result self ≠ none
  | .poll .rumble => ReturnsNothing ((pollRumble transport index).result self)
  | .poll .led => ReturnsNothing ((pollLed transport index).result self)
  | .pollOutput => ReturnsNothing ((pollOutput transport index).result self)

/-- The operation does nothing an owner or the host could notice. -/
structure Inert (transport : Transport T E) (cell : Cells T)
    (before : WirelessReceiver (Recording T)) (index : UInt8) (operation : SlotOperation) :
    Prop where
  quiet : Quiet (recording transport) before index operation
  noWrite : ∃ entries,
    (perform (recording transport) before (operation.at index)).transport.exchanges =
      before.transport.exchanges ++ entries ∧
      ∀ exchange ∈ entries, ∀ report, exchange.call ≠ .writeInputReport index report
  slots : (perform (recording transport) before (operation.at index)).slots = before.slots
  pending : ∀ kind slot, slot.toNat < 4 →
    cell kind (perform (recording transport) before (operation.at index)).transport.transport slot =
      cell kind before.transport.transport slot

/-- When the operation is inert: `send_input` always, a raw packet when it is too
short, a poll inside the arrays when its cells are empty. -/
def InertWhen (empty : ReportKind → UInt8 → Prop) (index : UInt8) : SlotOperation → Prop
  | .sendInput => True
  | .sendRawInput data => data.length < inputReportLen
  | .poll kind => index.toNat < 4 ∧ empty kind index
  | .pollOutput => index.toNat < 4 ∧ empty .rumble index ∧ empty .led index

/-! ## One operation -/

section Operation

variable {transport : Transport T E} {cell : Cells T} {self : WirelessReceiver (Recording T)}
  {index : UInt8}

/-- An operation that makes one call, no write, is inert when it is quiet and the
call leaves the cells alone. -/
theorem inert_iff_of_polled {operation : SlotOperation} {after : T} {exchange : Exchange}
    (performed : perform (recording transport) self (operation.at index) =
      { self with transport := ⟨after, self.transport.exchanges ++ [exchange]⟩ })
    (isPoll : ∀ report, exchange.call ≠ .writeInputReport index report) :
    Inert transport cell self index operation ↔
      Quiet (recording transport) self index operation ∧ ∀ kind slot, slot.toNat < 4 →
        cell kind after slot = cell kind self.transport.transport slot := by
  constructor
  · intro inert
    have pending := inert.pending
    rw [performed] at pending
    exact ⟨inert.quiet, pending⟩
  · rintro ⟨quiet, pending⟩
    refine ⟨quiet, ⟨[exchange], ?_, ?_⟩, ?_, ?_⟩
    · rw [performed]
    · intro entry member
      rw [List.mem_singleton.mp member]
      exact isPoll
    · rw [performed]
    · rw [performed]
      exact pending

/-- A result with the report of a cell returns nothing exactly when the cell is
empty. -/
theorem returnsNothing_ite_iff {Report : Type} {inRange : Prop} [Decidable inRange]
    {report : Option Report} :
    ReturnsNothing (if inRange then some (.ok report : Except E (Option Report)) else none) ↔
      inRange ∧ report = none := by
  unfold ReturnsNothing
  split
  · next valid => cases report <;> simp [valid]
  · next invalid => simp [invalid]

/-- A poll through the receiver is quiet when the transport's poll returns nothing. -/
theorem quiet_poll (transport : Transport T E) (self : WirelessReceiver T) (kind : ReportKind)
    (index : UInt8) :
    Quiet transport self index (.poll kind) ↔
      ReturnsNothing ((transport.poll kind index).result self.transport) := by
  cases kind with
  | rumble => rw [Quiet, pollRumble, result_onTransport, Transport.poll]
  | led => rw [Quiet, pollLed, result_onTransport, Transport.poll]

/-- A poll through the receiver is the transport's poll and nothing else. -/
theorem perform_poll (transport : Transport T E) (self : WirelessReceiver T) (kind : ReportKind)
    (index : UInt8) :
    perform transport self (SlotOperation.at index (.poll kind)) =
      { self with transport := (transport.poll kind index).stateAfter self.transport } := by
  cases kind with
  | rumble => exact stateAfter_onTransport self (transport.pollRumble index)
  | led => exact stateAfter_onTransport self (transport.pollLed index)

/-- A poll is inert inside the arrays on an empty cell. -/
theorem inert_poll_iff (cells : OutputCells transport cell) (kind : ReportKind) :
    Inert transport cell self index (.poll kind) ↔
      index.toNat < 4 ∧ cell kind self.transport.transport index = none := by
  have performed := perform_poll (recording transport) self kind index
  have isPoll : ∀ report, TransportCall.poll kind index ≠ .writeInputReport index report := by
    intro report
    cases kind <;> simp [TransportCall.poll]
  rw [poll_recording, stateAfter_record] at performed
  rw [inert_iff_of_polled performed isPoll, quiet_poll, poll_recording, result_record,
    cells.returned, returnsNothing_ite_iff, and_iff_left_iff_imp]
  intro condition other slot inRange
  rw [cells.taken kind index _ other slot inRange]
  split
  · next same =>
      obtain ⟨rfl, rfl⟩ := same
      exact condition.2.symm
  · rfl

/-- A slot has no next report exactly when it has one of neither kind. -/
theorem nextOutput_eq_none_iff {before : T} : nextOutput cell before index = none ↔
    cell .rumble before index = none ∧ cell .led before index = none := by
  unfold nextOutput
  cases cell .rumble before index <;> simp

/-- `poll_output` is inert inside the arrays on two empty cells. -/
theorem inert_pollOutput_iff (cells : OutputCells transport cell) :
    Inert transport cell self index .pollOutput ↔ index.toNat < 4 ∧
      cell .rumble self.transport.transport index = none ∧
        cell .led self.transport.transport index = none := by
  have performed : perform (recording transport) self (SlotOperation.at index .pollOutput) =
      { self with transport :=
        { transport := (transport.pollOutput index).stateAfter self.transport.transport
          exchanges := self.transport.exchanges ++ [⟨.pollOutput index,
            (transport.pollOutput index).ending self.transport.transport⟩] } } := by
    rw [SlotOperation.at, perform, pollOutput, stateAfter_onTransport, recording,
      stateAfter_record]
  have quiet : Quiet (recording transport) self index .pollOutput ↔ index.toNat < 4 ∧
      nextOutput cell self.transport.transport index = none := by
    rw [Quiet, pollOutput, result_onTransport, recording, result_record, cells.returned_output,
      returnsNothing_ite_iff]
  rw [inert_iff_of_polled performed (fun report => by simp), quiet, nextOutput_eq_none_iff,
    and_iff_left_iff_imp]
  rintro ⟨-, noRumble, noLed⟩ kind slot inRange
  rw [cells.taken_output inRange]
  split
  · next same =>
      obtain ⟨rfl, -⟩ := same
      cases kind with
      | rumble => exact noRumble.symm
      | led => exact noLed.symm
  · rfl

/-- A raw packet is inert exactly when it is too short to be handed on. -/
theorem inert_sendRawInput_iff {data : List UInt8} :
    Inert transport cell self index (.sendRawInput data) ↔ data.length < inputReportLen := by
  rw [← InputReport.fromBytes_eq_none_iff]
  constructor
  · intro inert
    cases parsed : InputReport.fromBytes data with
    | none => rfl
    | some report =>
        obtain ⟨entries, logged, noWrite⟩ := inert.noWrite
        rw [SlotOperation.at, perform, sendRawInput, parsed] at logged
        dsimp only at logged
        rw [stateAfter_onTransport, recording, stateAfter_record, List.append_cancel_left_eq]
          at logged
        rw [← logged] at noWrite
        exact absurd rfl (noWrite _ List.mem_cons_self report)
  · intro short
    have nothing : (sendRawInput (recording transport) index data :
        Method (WirelessReceiver (Recording T)) E Unit) = .returns () := by
      rw [sendRawInput, short]
    have same : perform (recording transport) self
        (SlotOperation.at index (.sendRawInput data)) = self := by
      rw [SlotOperation.at, perform, nothing, Method.stateAfter_returns]
    refine ⟨?_, ⟨[], ?_, ?_⟩, ?_, ?_⟩
    · rw [Quiet, nothing, Method.result_returns]
      rintro ⟨⟩
    · rw [same, List.append_nil]
    · rintro exchange ⟨⟩
    · rw [same]
    · intro kind slot _
      rw [same]

/-- Without a slot `send_input` is inert. -/
theorem inert_sendInput (absent : self.slot index = none) :
    Inert transport cell self index .sendInput := by
  have called := sendInput_of_none (recording transport) self absent
  have same : perform (recording transport) self (SlotOperation.at index .sendInput) = self :=
    Method.stateAfter_of_eq_ok called
  refine ⟨?_, ⟨[], ?_, ?_⟩, ?_, ?_⟩
  · rw [Quiet, Method.result_of_eq_ok called]
    rintro ⟨⟩
  · rw [same, List.append_nil]
  · rintro exchange ⟨⟩
  · rw [same]
  · intro kind slot _
    rw [same]

/-- On a transport whose polls read cells, an operation on an index without a
slot is inert exactly under `InertWhen`. -/
theorem inert_iff (cells : OutputCells transport cell) (absent : self.slot index = none)
    (operation : SlotOperation) : Inert transport cell self index operation ↔
      InertWhen (fun kind index => cell kind self.transport.transport index = none) index
        operation := by
  cases operation with
  | sendInput => exact iff_of_true (inert_sendInput absent) trivial
  | sendRawInput data => exact inert_sendRawInput_iff
  | poll kind => exact inert_poll_iff cells kind
  | pollOutput => exact inert_pollOutput_iff cells

end Operation

/-! ## Reachable receivers -/

/-- A report is queued on the mock. -/
def arrival (before after : MockTransport) : Prop :=
  ∃ interface report, after = (before.queueOutput interface report).finalState

/-- A receiver on a new mock, its calls recorded. -/
def onMock (config : ConfigDescriptorSet) : WirelessReceiver (Recording MockTransport) :=
  .new config ⟨.new, []⟩

/-- A reachable receiver has no slot past its interfaces. -/
theorem slot_eq_none {transport : Transport T E} {environment : T → T → Prop} {initial : T}
    {config : ConfigDescriptorSet} {self : WirelessReceiver T} {index : UInt8}
    (reached : Reachable transport environment (.new config initial) self)
    (beyond : ¬index < config.numInterfaces) : self.slot index = none := by
  rw [← Option.not_isSome_iff_eq_none, reached.slots.2]
  exact beyond

/-- Over the mock and over the hardware, in every reachable state, an operation on
an index without a slot is inert exactly when it is `send_input`, a raw packet of
fewer than twenty bytes, or a poll of an index below four; on the mock also only
while nothing is queued there. -/
theorem outOfRange_inert_iff {count : UInt8} {config : ConfigDescriptorSet}
    (accepted : ConfigDescriptorSet.new count = .ok config) (E : Type) (os : Os K) (fd : Int32)
    (kernel : K) (index : UInt8) (beyond : ¬index < config.numInterfaces)
    (operation : SlotOperation) :
    (∀ self, Reachable (recording (mock E)) (recorded arrival) (onMock config) self →
      (Inert (mock E) MockTransport.pending self index operation ↔
        InertWhen
          (fun kind index => MockTransport.pending kind self.transport.transport index = none)
          index operation)) ∧
    (∀ self, Reachable (recording (hardware os)) (recorded (RawGadgetTransport.background os))
        (onHardware config fd kernel) self →
      (Inert (hardware os) RawGadgetTransport.waiting self index operation ↔
        InertWhen (fun _ _ => True) index operation)) := by
  refine ⟨?_, ?_⟩
  · intro self reached
    exact inert_iff (outputCells_mock E) (slot_eq_none reached beyond) operation
  · intro self reached
    rw [inert_iff (outputCells_hardware os) (slot_eq_none reached beyond)]
    have few : config.numInterfaces.toNat ≤ 4 := numInterfaces_le_of_built (.fresh accepted)
    have empty : ∀ kind, index.toNat < 4 →
        RawGadgetTransport.waiting kind self.transport.transport index = none :=
      fun kind inRange => waiting_of_reachable few reached beyond inRange
    cases operation with
    | sendInput => exact Iff.rfl
    | sendRawInput data => exact Iff.rfl
    | poll kind => exact and_congr_right fun inRange => iff_true_intro (empty kind inRange)
    | pollOutput =>
        refine and_congr_right fun inRange => ?_
        exact iff_of_true ⟨empty .rumble inRange, empty .led inRange⟩ ⟨trivial, trivial⟩

/-- Index 2 of a receiver with two slots, polled for rumble. -/
theorem outOfRange_inert_iff_third_slot : ∃ config, ConfigDescriptorSet.new 2 = .ok config ∧
    ¬(2 : UInt8) < config.numInterfaces ∧
      (Inert (mock Errno) MockTransport.pending (onMock config) 2 (.poll .rumble) ↔
        (2 : UInt8).toNat < 4 ∧ MockTransport.pending .rumble .new 2 = none) := by
  refine ⟨_, rfl, by decide, ?_⟩
  exact (outOfRange_inert_iff (show ConfigDescriptorSet.new 2 = .ok _ from rfl) Errno .counting 3 0
    2 (by decide) (.poll .rumble)).1 _ .start

/-- With one slot, a raw report for index 1 is handed to the transport and a poll
of index 4 panics. -/
theorem not_inert_one_slot : ∃ config, ConfigDescriptorSet.new 1 = .ok config ∧
    ¬Inert (hardware .counting) RawGadgetTransport.waiting (onHardware config 3 0) 1
        (.sendRawInput (List.replicate 20 0)) ∧
      ¬Inert (hardware .counting) RawGadgetTransport.waiting (onHardware config 3 0) 4
        (.poll .rumble) := by
  refine ⟨_, rfl, ?_, ?_⟩
  · rw [inert_sendRawInput_iff]
    decide
  · rw [inert_poll_iff (outputCells_hardware .counting)]
    rintro ⟨inRange, -⟩
    exact absurd inRange (by decide)

end X360Gadget.Session
