import Mathlib.Data.List.Basic
import Mathlib.Data.List.Induction
import X360Gadget.Descriptors.Config
import X360Gadget.Session.Transport

/-!
# The receiver

`WirelessReceiver` owns the controller slots and hands its operations on to a
transport. `slot_perform` says what one operation leaves in a slot and
`slot_performAll` what a sequence of them does, whatever the transport returned
on the way.
-/

namespace X360Gadget.Session

open X360Gadget.Descriptors X360Gadget.Protocol X360Gadget.Std

variable {T E : Type}

/-- The receiver over a transport with state `T`. -/
structure WirelessReceiver (T : Type) where
  config : ConfigDescriptorSet
  slots : List ControllerSlot
  transport : T

namespace WirelessReceiver

/-- A receiver with one controller for each slot of the configuration. -/
def new (config : ConfigDescriptorSet) (transport : T) : WirelessReceiver T where
  config
  slots := (List.range config.numInterfaces.toNat).map fun i => ControllerSlot.new (UInt8.ofNat i)
  transport

/-- The number of its slots. -/
def numSlots (self : WirelessReceiver T) : UInt8 := self.config.numInterfaces

/-- The controller of a slot. -/
def slot (self : WirelessReceiver T) (index : UInt8) : Option ControllerSlot :=
  self.slots[index.toNat]?

/-- What is done to the slot that `slot_mut` lends out; nothing, if it lends none. -/
def slotMut (self : WirelessReceiver T) (index : UInt8)
    (update : ControllerSlot → ControllerSlot) : WirelessReceiver T :=
  { self with slots := self.slots.modify index.toNat update }

/-- A call of a transport method by the receiver. -/
def onTransport {R : Type} (method : Method T E R) : Method (WirelessReceiver T) E R :=
  method.on (·.transport) fun self transport => { self with transport }

section Operations

variable (transport : Transport T E)

/-- Send the current state of a slot; nothing for an index without one. -/
def sendInput (slotIndex : UInt8) : Method (WirelessReceiver T) E Unit := fun self =>
  match self.slot slotIndex with
  | some slot =>
      onTransport (transport.writeInputReport slotIndex (InputReport.fromInput slot.state)) self
  | none => .ok (.ok (), self)

/-- Send the first bytes of a raw packet; nothing if they are too few. -/
def sendRawInput (slotIndex : UInt8) (data : List UInt8) : Method (WirelessReceiver T) E Unit :=
  match InputReport.fromBytes data with
  | some report => onTransport (transport.writeInputReport slotIndex report)
  | none => .returns ()

/-- Poll the rumble of a slot. -/
def pollRumble (slotIndex : UInt8) : Method (WirelessReceiver T) E (Option RumbleReport) :=
  onTransport (transport.pollRumble slotIndex)

/-- Poll the LED animation of a slot. -/
def pollLed (slotIndex : UInt8) : Method (WirelessReceiver T) E (Option LedReport) :=
  onTransport (transport.pollLed slotIndex)

/-- Poll the output of a slot, of either kind. -/
def pollOutput (slotIndex : UInt8) : Method (WirelessReceiver T) E (Option OutputReport) :=
  onTransport (transport.pollOutput slotIndex)

end Operations

/-! ## Sequences of operations -/

/-- An operation of the receiver's owner. -/
inductive Operation where
  /-- `slot_mut(index)` and, where it lends a slot, `set_state` on it. -/
  | setState (index : UInt8) (state : InputState)
  | sendInput (slotIndex : UInt8)
  | sendRawInput (slotIndex : UInt8) (data : List UInt8)
  | pollRumble (slotIndex : UInt8)
  | pollLed (slotIndex : UInt8)
  | pollOutput (slotIndex : UInt8)
deriving DecidableEq, Repr

/-- The state the operation sets on a slot. -/
def Operation.sets (index : UInt8) : Operation → Option InputState
  | .setState other state => if other = index then some state else none
  | _ => none

/-- The receiver after an operation, whatever the operation returned. -/
def perform (transport : Transport T E) (self : WirelessReceiver T) :
    Operation → WirelessReceiver T
  | .setState index state => self.slotMut index fun slot => slot.setState state
  | .sendInput slotIndex => (sendInput transport slotIndex).stateAfter self
  | .sendRawInput slotIndex data => (sendRawInput transport slotIndex data).stateAfter self
  | .pollRumble slotIndex => (pollRumble transport slotIndex).stateAfter self
  | .pollLed slotIndex => (pollLed transport slotIndex).stateAfter self
  | .pollOutput slotIndex => (pollOutput transport slotIndex).stateAfter self

/-- The receiver after the operations in order. -/
def performAll (transport : Transport T E) (operations : List Operation)
    (self : WirelessReceiver T) : WirelessReceiver T :=
  operations.foldl (perform transport) self

/-- The last state set on a slot, or the default. -/
def lastState (operations : List Operation) (index : UInt8) : InputState :=
  (operations.filterMap (Operation.sets index)).getLast?.getD InputState.default

/-! ## What an operation does -/

/-- What one call of a method, or none, leaves of a transport. -/
inductive Called (transport : Transport T E) (before : T) : T → Prop where
  | nothing : Called transport before before
  | writeInputReport (interface : UInt8) (report : InputReport) :
      Called transport before ((transport.writeInputReport interface report).stateAfter before)
  | pollRumble (interface : UInt8) :
      Called transport before ((transport.pollRumble interface).stateAfter before)
  | pollLed (interface : UInt8) :
      Called transport before ((transport.pollLed interface).stateAfter before)
  | pollOutput (interface : UInt8) :
      Called transport before ((transport.pollOutput interface).stateAfter before)

section Slots

variable (self : WirelessReceiver T) (index : UInt8)

/-- A new receiver has one fresh slot for each interface. -/
theorem slot_new (config : ConfigDescriptorSet) (transport : T) :
    (new config transport).slot index =
      if index < config.numInterfaces then some (.new index) else none := by
  rw [slot, new, List.getElem?_map]
  split
  · next below =>
      rw [UInt8.lt_iff_toNat_lt] at below
      simp [List.getElem?_range below]
  · next beyond =>
      rw [UInt8.lt_iff_toNat_lt, Nat.not_lt] at beyond
      rw [List.getElem?_eq_none (by simpa using beyond)]
      rfl

/-- Updating one slot leaves the others alone. -/
theorem slot_slotMut (other : UInt8) (update : ControllerSlot → ControllerSlot) :
    (self.slotMut other update).slot index =
      if other = index then (self.slot index).map update else self.slot index := by
  simp only [slot, slotMut, List.getElem?_modify, UInt8.toNat_inj]
  split
  · rfl
  · simp

end Slots

section Perform

variable (transport : Transport T E) (self : WirelessReceiver T)

@[simp] theorem stateAfter_onTransport {R : Type} (method : Method T E R) :
    (onTransport method).stateAfter self =
      { self with transport := method.stateAfter self.transport } :=
  Method.stateAfter_on _ _ method self

@[simp] theorem result_onTransport {R : Type} (method : Method T E R) :
    (onTransport method).result self = method.result self.transport :=
  Method.result_on _ _ method self

/-- With a slot, `send_input` is a write of its state. -/
theorem sendInput_of_some {slotIndex : UInt8} {slot : ControllerSlot}
    (found : self.slot slotIndex = some slot) : sendInput transport slotIndex self =
      onTransport (transport.writeInputReport slotIndex (.fromInput slot.state)) self := by
  rw [sendInput, found]

/-- Without a slot, `send_input` does nothing. -/
theorem sendInput_of_none {slotIndex : UInt8} (absent : self.slot slotIndex = none) :
    sendInput transport slotIndex self = .ok (.ok (), self) := by
  rw [sendInput, absent]

/-- Every operation but `set_state` makes at most one call and changes nothing else. -/
theorem exists_perform_eq {operation : Operation}
    (other : ∀ index state, operation ≠ .setState index state) :
    ∃ after, Called transport self.transport after ∧
      perform transport self operation = { self with transport := after } := by
  cases operation with
  | setState index state => exact absurd rfl (other index state)
  | sendInput slotIndex =>
      rw [perform]
      cases found : self.slot slotIndex with
      | some slot =>
          rw [Method.stateAfter_congr (sendInput_of_some transport self found)]
          exact ⟨_, .writeInputReport _ _, stateAfter_onTransport self _⟩
      | none =>
          rw [Method.stateAfter_of_eq_ok (sendInput_of_none transport self found)]
          exact ⟨_, .nothing, rfl⟩
  | sendRawInput slotIndex data =>
      simp only [perform, sendRawInput]
      split
      · exact ⟨_, .writeInputReport _ _, stateAfter_onTransport self _⟩
      · exact ⟨_, .nothing, rfl⟩
  | pollRumble slotIndex => exact ⟨_, .pollRumble slotIndex, stateAfter_onTransport self _⟩
  | pollLed slotIndex => exact ⟨_, .pollLed slotIndex, stateAfter_onTransport self _⟩
  | pollOutput slotIndex => exact ⟨_, .pollOutput slotIndex, stateAfter_onTransport self _⟩

/-- `set_state` calls nothing and every other operation at most one method. -/
theorem called_perform (operation : Operation) :
    Called transport self.transport (perform transport self operation).transport := by
  by_cases sets : ∃ index state, operation = .setState index state
  · obtain ⟨index, state, rfl⟩ := sets
    exact .nothing
  · obtain ⟨after, called, same⟩ := exists_perform_eq transport self
      fun index state same => sets ⟨index, state, same⟩
    rw [same]
    exact called

/-- An operation sets what it sets and keeps the index. -/
theorem slot_perform (operation : Operation) (index : UInt8) :
    (perform transport self operation).slot index = (self.slot index).map fun slot =>
      { slot with state := (operation.sets index).getD slot.state } := by
  by_cases sets : ∃ other state, operation = .setState other state
  · obtain ⟨other, state, rfl⟩ := sets
    simp only [perform, slot_slotMut, Operation.sets]
    split
    · rfl
    · simp
  · have other : ∀ index state, operation ≠ .setState index state :=
      fun index state same => sets ⟨index, state, same⟩
    obtain ⟨after, -, same⟩ := exists_perform_eq transport self other
    have nothing : operation.sets index = none := by
      cases operation with
      | setState other' state => exact absurd rfl (other other' state)
      | _ => rfl
    rw [same, nothing]
    simp [slot]

@[simp] theorem config_perform (operation : Operation) :
    (perform transport self operation).config = self.config := by
  by_cases sets : ∃ other state, operation = .setState other state
  · obtain ⟨other, state, rfl⟩ := sets
    rfl
  · obtain ⟨after, -, same⟩ := exists_perform_eq transport self
      fun index state same => sets ⟨index, state, same⟩
    rw [same]

end Perform

/-- One more operation makes its state the last one set. -/
theorem lastState_concat (operations : List Operation) (last : Operation) (index : UInt8) :
    lastState (operations ++ [last]) index =
      (last.sets index).getD (lastState operations index) := by
  rw [lastState, lastState, List.filterMap_append]
  cases set : last.sets index <;> simp [set]

/-- After any operations each slot holds its own index and the last state set on
it, and no slot appeared or disappeared. -/
theorem slot_performAll (transport : Transport T E) (operations : List Operation)
    (config : ConfigDescriptorSet) (initial : T) (index : UInt8) :
    (performAll transport operations (new config initial)).slot index =
      if index < config.numInterfaces then some ⟨index, lastState operations index⟩
      else none := by
  induction operations using List.reverseRecOn with
  | nil => exact slot_new index config initial
  | append_singleton operations last ih =>
      have extended : performAll transport (operations ++ [last]) (new config initial) =
          perform transport (performAll transport operations (new config initial)) last := by
        rw [performAll, List.foldl_concat]
        rfl
      rw [extended, slot_perform, ih, lastState_concat]
      split <;> rfl

/-- A recorded call is a call of the transport itself. -/
theorem Called.of_recording {transport : Transport T E} {before after : Recording T}
    (called : Called (recording transport) before after) :
    Called transport before.transport after.transport := by
  cases called with
  | nothing => exact .nothing
  | writeInputReport interface report =>
      rw [recording, stateAfter_record]
      exact .writeInputReport interface report
  | pollRumble interface =>
      rw [recording, stateAfter_record]
      exact .pollRumble interface
  | pollLed interface =>
      rw [recording, stateAfter_record]
      exact .pollLed interface
  | pollOutput interface =>
      rw [recording, stateAfter_record]
      exact .pollOutput interface

/-! ## Reachable receivers -/

/-- The receivers that operations of the owner reach, with steps of the
environment on the transport in between. -/
inductive Reachable (transport : Transport T E) (environment : T → T → Prop)
    (start : WirelessReceiver T) : WirelessReceiver T → Prop where
  | start : Reachable transport environment start start
  | operation {self : WirelessReceiver T} (reached : Reachable transport environment start self)
      (operation : Operation) :
      Reachable transport environment start (perform transport self operation)
  | environment {self : WirelessReceiver T} {next : T}
      (reached : Reachable transport environment start self)
      (moved : environment self.transport next) :
      Reachable transport environment start { self with transport := next }

/-- A reachable receiver has its configuration and exactly the slots of it. -/
theorem Reachable.slots {transport : Transport T E} {environment : T → T → Prop}
    {config : ConfigDescriptorSet} {initial : T} {self : WirelessReceiver T}
    (reached : Reachable transport environment (new config initial) self) :
    self.config = config ∧ ∀ index, (self.slot index).isSome ↔ index < config.numInterfaces := by
  induction reached with
  | start =>
      refine ⟨rfl, ?_⟩
      intro index
      rw [slot_new]
      split <;> simp_all
  | operation reached operation ih =>
      refine ⟨(config_perform _ _ operation).trans ih.1, ?_⟩
      intro index
      rw [slot_perform, Option.isSome_map]
      exact ih.2 index
  | environment reached moved ih => exact ih

end WirelessReceiver

end X360Gadget.Session
