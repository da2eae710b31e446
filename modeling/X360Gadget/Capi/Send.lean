import X360Gadget.Capi.Calls
import X360Gadget.Session.Mock

/-!
# The result of `x360_send`

The code comes from `send_raw_input`, which returns `Ok(())` without a call when
the packet is too short for a report. Success then means delivery exactly for
the lengths where that cannot happen.
-/

namespace X360Gadget.Capi

open X360Gadget.Descriptors X360Gadget.Protocol X360Gadget.Session X360Gadget.Std
open WirelessReceiver

variable {T E : Type}

/-- Success is reported for a delivered report only, a short packet and a failed
write as errors. -/
structure SendSound (transport : Transport T E) (receiver : WirelessReceiver (Recording T))
    (slot : Int32) (bytes : List UInt8) : Prop where
  delivered : (x360Send (recording transport) slot (some bytes)).result (some receiver) =
      some (.ok 1) → ∃ interface report, (interface.toNat : Int) = slot.toInt ∧
        report.asBytes = bytes.take 20 ∧
          exchangesOf (x360Send (recording transport) slot (some bytes)) receiver =
            [⟨.writeInputReport interface report, .value⟩]
  short : bytes.length < 20 →
    (x360Send (recording transport) slot (some bytes)).result (some receiver) = some (.ok 0) ∧
      exchangesOf (x360Send (recording transport) slot (some bytes)) receiver = []
  failed : ∀ exchange ∈ exchangesOf (x360Send (recording transport) slot (some bytes)) receiver,
    exchange.ending = .error →
      (x360Send (recording transport) slot (some bytes)).result (some receiver) = some (.ok 0)

section Lengths

variable (transport : Transport T E) (receiver : WirelessReceiver T) (slot : Int32)
  {bytes : List UInt8}

/-- An empty packet is an error. -/
theorem x360Send_empty (empty : bytes.length = 0) :
    x360Send transport slot (some bytes) (some receiver) = .ok (.ok 0, some receiver) := by
  simp only [x360Send, if_pos empty]

/-- Any other packet goes to `send_raw_input`. -/
theorem x360Send_nonempty (nonempty : bytes.length ≠ 0) :
    x360Send transport slot (some bytes) (some receiver) =
      through (sendRawInput transport (asU8 slot) bytes) sendCode receiver := by
  simp only [x360Send, if_neg nonempty]

end Lengths

section Sound

variable (transport : Transport T E) (receiver : WirelessReceiver (Recording T)) (slot : Int32)
  {bytes : List UInt8}

/-- A nonempty packet that is too short succeeds without a call. -/
theorem x360Send_short (nonempty : bytes.length ≠ 0) (short : bytes.length < 20) :
    (x360Send (recording transport) slot (some bytes)).result (some receiver) = some (.ok 1) ∧
      exchangesOf (x360Send (recording transport) slot (some bytes)) receiver = [] := by
  have refused : InputReport.fromBytes bytes = none := InputReport.fromBytes_eq_none_iff.mpr short
  have called := x360Send_nonempty (recording transport) receiver slot nonempty
  have nothing : (sendRawInput (recording transport) (asU8 slot) bytes :
      Method (WirelessReceiver (Recording T)) E Unit) = .returns () := by
    rw [sendRawInput, refused]
  rw [nothing] at called
  refine ⟨result_through _ _ called, ?_⟩
  exact exchangesOf_eq (stateAfter_through _ _ called) (List.append_nil _).symm

/-- A packet of twenty bytes or more is one write, whose result decides the code. -/
theorem x360Send_long (long : 20 ≤ bytes.length) : ∃ report,
    report.asBytes = bytes.take 20 ∧
    exchangesOf (x360Send (recording transport) slot (some bytes)) receiver =
      [⟨.writeInputReport (asU8 slot) report,
        (transport.writeInputReport (asU8 slot) report).ending receiver.transport.transport⟩] ∧
    (x360Send (recording transport) slot (some bytes)).result (some receiver) =
      ((transport.writeInputReport (asU8 slot) report).result
        receiver.transport.transport).map fun returned => .ok (sendCode returned) := by
  cases parsed : InputReport.fromBytes bytes with
  | none =>
      have short := InputReport.fromBytes_eq_none_iff.mp parsed
      exact absurd long (Nat.not_le_of_lt short)
  | some report =>
      have nonempty : bytes.length ≠ 0 := by omega
      have called := x360Send_nonempty (recording transport) receiver slot nonempty
      have write : (sendRawInput (recording transport) (asU8 slot) bytes :
          Method (WirelessReceiver (Recording T)) E Unit) =
            onTransport ((recording transport).writeInputReport (asU8 slot) report) := by
        rw [sendRawInput, parsed]
      rw [write] at called
      refine ⟨report, (InputReport.fromBytes_eq_some_iff.mp parsed).2, ?_, ?_⟩
      · refine exchangesOf_eq (stateAfter_through _ _ called) ?_
        rw [stateAfter_onTransport, recording, stateAfter_record]
      · rw [result_through _ _ called, result_onTransport, recording, result_record]

/-- For every slot of the receiver and every result of the transport, `x360_send`
keeps its word exactly for empty packets and those of at least twenty bytes. -/
theorem sendSound_iff (transport : Transport T E) (receiver : WirelessReceiver (Recording T))
    (slot : Int32) (bytes : List UInt8) (nonneg : 0 ≤ slot.toInt)
    (below : slot.toInt < receiver.numSlots.toNat) :
    SendSound transport receiver slot bytes ↔ bytes.length = 0 ∨ 20 ≤ bytes.length := by
  constructor
  · intro sound
    by_contra between
    rw [not_or, Nat.not_le] at between
    have success := (x360Send_short transport receiver slot between.1 between.2).1
    rw [(sound.short between.2).1] at success
    exact absurd success (by decide)
  · rintro (empty | long)
    · have called := x360Send_empty (recording transport) receiver slot empty
      have code := Method.result_of_eq_ok called
      have nothing : exchangesOf (x360Send (recording transport) slot (some bytes)) receiver = [] :=
        exchangesOf_eq (Method.stateAfter_of_eq_ok called) (List.append_nil _).symm
      refine ⟨?_, fun _ => ⟨code, nothing⟩, fun _ _ _ => code⟩
      intro success
      rw [code] at success
      exact absurd success (by decide)
    · obtain ⟨report, bytesOf, calls, code⟩ := x360Send_long transport receiver slot long
      have sameSlot : ((asU8 slot).toNat : Int) = slot.toInt := by
        have bound := receiver.numSlots.toNat_lt
        rw [toNat_asU8]
        omega
      refine ⟨?_, fun short => absurd long (Nat.not_le_of_lt short), ?_⟩
      · intro success
        refine ⟨_, report, sameSlot, bytesOf, ?_⟩
        rw [calls]
        rw [code] at success
        obtain ⟨returned, result, isOne⟩ := Option.map_eq_some_iff.mp success
        cases returned with
        | ok value => rw [Method.ending_eq_value_iff.mpr ⟨value, result⟩]
        | error error =>
            have zero : (0 : Int32) = 1 := Except.ok.inj isOne
            exact absurd zero (by decide)
      · intro exchange member failed
        rw [calls, List.mem_singleton] at member
        subst member
        obtain ⟨error, result⟩ := Method.ending_eq_error_iff.mp failed
        rw [code, result]
        rfl

end Sound

/-- Twenty bytes for the one slot of a receiver on the mock. -/
theorem sendSound_iff_full_report : ∃ config, ConfigDescriptorSet.new 1 = .ok config ∧
    (0 ≤ (0 : Int32).toInt ∧ (0 : Int32).toInt < config.numInterfaces.toNat) ∧
      (SendSound (mock Empty) (.new config ⟨.new, []⟩) 0 (List.replicate 20 0) ↔
        (List.replicate 20 (0 : UInt8)).length = 0 ∨ 20 ≤ (List.replicate 20 (0 : UInt8)).length) :=
  ⟨_, rfl, by decide, sendSound_iff _ _ 0 _ (by decide) (by decide)⟩

/-- Nineteen bytes are sent nowhere and reported as a success. -/
theorem not_sendSound_nineteen : ∃ config, ConfigDescriptorSet.new 1 = .ok config ∧
    ¬SendSound (mock Empty) (.new config ⟨.new, []⟩) 0 (List.replicate 19 0) := by
  refine ⟨_, rfl, ?_⟩
  intro sound
  have failure := (sound.short (by decide)).1
  rw [(x360Send_short _ _ _ (by decide) (by decide)).1] at failure
  exact absurd failure (by decide)

end X360Gadget.Capi
