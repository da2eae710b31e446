import Mathlib.Data.Vector.Basic
import X360Gadget.Session.OutputCells

/-!
# The mock transport

It keeps each cell as it is: `queueOutput` fills one, a poll takes one.
-/

namespace X360Gadget.Session

open X360Gadget.Protocol X360Gadget.Std X360Gadget.Transport

/-- What the mock records and what it was pre-loaded with. -/
structure MockTransport where
  lastReport : Option InputReport
  descriptorsSent : List (List UInt8)
  pendingRumble : Vector (Option RumbleReport) 4
  pendingLed : Vector (Option LedReport) 4

namespace MockTransport

/-- A mock that has seen nothing. -/
def new : MockTransport where
  lastReport := none
  descriptorsSent := []
  pendingRumble := Vector.replicate 4 none
  pendingLed := Vector.replicate 4 none

/-- Pre-load a report; an index out of range panics. -/
def queueOutput (self : MockTransport) (interface : UInt8) (report : OutputReport) :
    Outcome MockTransport MockTransport :=
  if interface.toNat < 4 then
    match report with
    | .rumble r => .ok { self with
        pendingRumble := self.pendingRumble.setIfInBounds interface.toNat (some r) }
    | .led l => .ok { self with
        pendingLed := self.pendingLed.setIfInBounds interface.toNat (some l) }
  else
    .error (.outOfBounds, self)

/-- Take the pending rumble of a slot. -/
def pollRumble (self : MockTransport) (interface : UInt8) :
    Outcome MockTransport (Option RumbleReport × MockTransport) :=
  if inRange : interface.toNat < 4 then
    .ok (self.pendingRumble[interface.toNat], { self with
      pendingRumble := self.pendingRumble.setIfInBounds interface.toNat none })
  else
    .error (.outOfBounds, self)

/-- Take the pending LED animation of a slot. -/
def pollLed (self : MockTransport) (interface : UInt8) :
    Outcome MockTransport (Option LedReport × MockTransport) :=
  if inRange : interface.toNat < 4 then
    .ok (self.pendingLed[interface.toNat], { self with
      pendingLed := self.pendingLed.setIfInBounds interface.toNat none })
  else
    .error (.outOfBounds, self)

end MockTransport

/-- The mock as a transport; it never returns an error. -/
def mock (E : Type) : Transport MockTransport E where
  writeDescriptor data := fun self =>
    .ok (.ok (), { self with descriptorsSent := self.descriptorsSent ++ [data] })
  writeInputReport _ report := fun self => .ok (.ok (), { self with lastReport := some report })
  pollRumble interface := .infallible fun self => self.pollRumble interface
  pollLed interface := .infallible fun self => self.pollLed interface

namespace MockTransport

/-- The report a poll of the kind and slot would take. -/
def pending : Cells MockTransport
  | .rumble, self, slot => self.pendingRumble[slot.toNat]?.join
  | .led, self, slot => self.pendingLed[slot.toNat]?.join

/-- A mock that starts has no report pending. -/
theorem pending_new (kind : ReportKind) (slot : UInt8) : pending kind new slot = none := by
  cases kind <;> simp only [pending, new, Vector.getElem?_replicate] <;> split <;> rfl

/-- Emptying a cell of a register array leaves the others alone. -/
theorem join_getElem?_setIfInBounds {Report : Type} (cells : Vector (Option Report) 4)
    (slot index : UInt8) (value : Option Report) (inRange : index.toNat < 4) :
    (cells.setIfInBounds slot.toNat value)[index.toNat]?.join =
      if index = slot then value else cells[index.toNat]?.join := by
  have differ : slot.toNat = index.toNat ↔ index = slot := by
    rw [← UInt8.toNat_inj, eq_comm]
  simp only [Vector.getElem?_setIfInBounds, differ]
  by_cases same : index = slot
  · simp [same, same ▸ inRange]
  · simp [same]

/-- A queued report replaces what its own cell holds. -/
theorem arrives_queueOutput : Arrives pending fun self slot report =>
    (self.queueOutput slot report).finalState := by
  intro self slot report kind index valid inRange
  cases report with
  | rumble r =>
      simp only [queueOutput, if_pos valid, Outcome.finalState_ok]
      cases kind with
      | rumble =>
          rw [pending, join_getElem?_setIfInBounds _ _ _ _ inRange]
          rfl
      | led =>
          rw [pending]
          split <;> rfl
  | led l =>
      simp only [queueOutput, if_pos valid, Outcome.finalState_ok]
      cases kind with
      | rumble =>
          rw [pending]
          split <;> rfl
      | led =>
          rw [pending, join_getElem?_setIfInBounds _ _ _ _ inRange]
          rfl

end MockTransport

/-- The polls of the mock read its two arrays. -/
theorem outputCells_mock (E : Type) : OutputCells (mock E) MockTransport.pending := by
  refine ⟨?_, ?_, rfl⟩
  · intro kind slot self
    by_cases inRange : slot.toNat < 4
    · rw [if_pos inRange]
      cases kind <;>
        simp [Transport.poll, mock, Method.result, Method.infallible, MockTransport.pollRumble,
          MockTransport.pollLed, inRange, MockTransport.pending]
    · rw [if_neg inRange]
      cases kind <;>
        simp [Transport.poll, mock, Method.result, Method.infallible, MockTransport.pollRumble,
          MockTransport.pollLed, inRange]
  · intro kind slot self other index bound
    by_cases inRange : slot.toNat < 4
    · cases kind <;> cases other <;>
        simp [Transport.poll, mock, Method.stateAfter, Method.infallible, MockTransport.pollRumble,
          MockTransport.pollLed, inRange, MockTransport.pending,
          MockTransport.join_getElem?_setIfInBounds _ _ _ _ bound]
    · have differ : index ≠ slot := fun same => inRange (same ▸ bound)
      cases kind <;>
        simp [Transport.poll, mock, Method.stateAfter, Method.infallible, MockTransport.pollRumble,
          MockTransport.pollLed, inRange, differ]

end X360Gadget.Session
