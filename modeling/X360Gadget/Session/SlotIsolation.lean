import X360Gadget.Session.Receiver

/-!
# Slots do not mix

What `send_input` hands the transport depends on its own slot's last state only,
whatever was done to other slots and whatever earlier calls returned.
-/

namespace X360Gadget.Session

open X360Gadget.Descriptors X360Gadget.Protocol X360Gadget.Std

variable {T E : Type}

namespace WirelessReceiver

/-- A new receiver after some operations, with the calls its transport received. -/
def afterOperations (config : ConfigDescriptorSet) (transport : Transport T E) (initial : T)
    (operations : List Operation) : WirelessReceiver (Recording T) :=
  performAll (recording transport) operations (new config ⟨initial, []⟩)

section SendInput

variable (transport : Transport T E) (self : WirelessReceiver (Recording T)) {slotIndex : UInt8}

/-- Sending a slot hands over its packed state, once. -/
theorem exchanges_sendInput {slot : ControllerSlot} (found : self.slot slotIndex = some slot) :
    ∃ ending, (perform (recording transport) self (.sendInput slotIndex)).transport.exchanges =
      self.transport.exchanges ++
        [⟨.writeInputReport slotIndex (.fromInput slot.state), ending⟩] := by
  rw [perform, Method.stateAfter_congr (sendInput_of_some _ self found), stateAfter_onTransport]
  exact ⟨_, congrArg Recording.exchanges (stateAfter_record _ _ _)⟩

/-- Sending an index without a slot does nothing. -/
theorem perform_sendInput_of_none (absent : self.slot slotIndex = none) :
    perform (recording transport) self (.sendInput slotIndex) = self := by
  rw [perform, Method.stateAfter_of_eq_ok (sendInput_of_none _ self absent)]

/-- The raw path with a slot's own packed state is `send_input`. -/
theorem perform_sendRawInput_eq {slot : ControllerSlot}
    (found : self.slot slotIndex = some slot) :
    perform (recording transport) self
        (.sendRawInput slotIndex (InputReport.fromInput slot.state).asBytes) =
      perform (recording transport) self (.sendInput slotIndex) := by
  rw [perform, perform, Method.stateAfter_congr (sendInput_of_some _ self found), sendRawInput,
    InputReport.fromBytes_asBytes]

end SendInput

/-- After any operations a send of slot `j` hands over the last state set on it,
once, and a send of no slot hands over nothing; indices stay, only `set_state`
changes a slot, and the raw path with the same bytes changes no later call. -/
theorem slots_isolated (config : ConfigDescriptorSet) (transport : Transport T E) (initial : T)
    (operations : List Operation) :
    (∀ j, j < config.numInterfaces → ∃ ending,
      (perform (recording transport) (afterOperations config transport initial operations)
          (.sendInput j)).transport.exchanges =
        (afterOperations config transport initial operations).transport.exchanges ++
          [⟨.writeInputReport j (.fromInput (lastState operations j)), ending⟩]) ∧
    (∀ j, ¬j < config.numInterfaces →
      (perform (recording transport) (afterOperations config transport initial operations)
          (.sendInput j)).transport.exchanges =
        (afterOperations config transport initial operations).transport.exchanges) ∧
    (∀ i, ((afterOperations config transport initial operations).slot i).map (·.index) =
      if i < config.numInterfaces then some i else none) ∧
    (∀ operation, (∀ i state, operation ≠ .setState i state) → ∀ i,
      (perform (recording transport) (afterOperations config transport initial operations)
          operation).slot i = (afterOperations config transport initial operations).slot i) ∧
    (∀ j rest, j < config.numInterfaces →
      (afterOperations config transport initial (operations ++ .sendRawInput j
          (InputReport.fromInput (lastState operations j)).asBytes :: rest)).transport.exchanges =
        (afterOperations config transport initial
          (operations ++ .sendInput j :: rest)).transport.exchanges) := by
  have found : ∀ j, j < config.numInterfaces →
      (afterOperations config transport initial operations).slot j =
        some ⟨j, lastState operations j⟩ := by
    intro j below
    rw [afterOperations, slot_performAll, if_pos below]
  refine ⟨?_, ?_, ?_, ?_, ?_⟩
  · intro j below
    have sent := exchanges_sendInput transport _ (found j below)
    dsimp only at sent
    exact sent
  · intro j beyond
    have absent : (afterOperations config transport initial operations).slot j = none := by
      rw [afterOperations, slot_performAll, if_neg beyond]
    rw [perform_sendInput_of_none transport _ absent]
  · intro i
    rw [afterOperations, slot_performAll]
    split <;> rfl
  · intro operation other i
    rw [slot_perform]
    cases operation with
    | setState index state => exact absurd rfl (other index state)
    | _ => simp [Operation.sets]
  · intro j rest below
    have same := perform_sendRawInput_eq transport _ (found j below)
    simp only [afterOperations, performAll, List.foldl_append, List.foldl_cons] at same ⊢
    rw [same]

end WirelessReceiver

end X360Gadget.Session
