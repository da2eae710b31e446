import Mathlib.Tactic.IntervalCases
import X360Gadget.Protocol.Input

/-!
# Reading an input report back

`decode` follows the documented byte layout, `fromInput` is what the source
packs. The two are inverse, so no control overlaps another, and the reports the
source can build are exactly those with the fixed bytes in place.
-/

namespace X360Gadget.Protocol

open X360Gadget.Std.Bits

namespace InputReport

/-- The bytes and the bit that no control occupies are as in a neutral report. -/
structure WellFormed (report : InputReport) : Prop where
  reportId : report.bytes[0] = 0x00
  reportLength : report.bytes[1] = 0x14
  reserved : bit report.bytes[3] 3 = false
  tail : ∀ i (_ : i < inputReportLen), 14 ≤ i → report.bytes[i] = 0x00

/-! ## The two packed bytes -/

/-- The first byte of buttons packs the pad and the four buttons beside it. -/
theorem padByte_eq (state : InputState) :
    padByte state = packByte state.dpadUp state.dpadDown state.dpadLeft state.dpadRight
      state.start state.back state.l3 state.r3 := rfl

/-- The reserved bit of byte 3 is packed as an unpressed button. -/
theorem faceByte_eq (state : InputState) :
    faceByte state = packByte state.lb state.rb state.guide false state.a state.b
      state.x state.y := by
  have empty : false.toUInt8 <<< 3 = 0 := rfl
  rw [packByte, empty, UInt8.or_zero]
  rfl

/-! ## Every byte of a packed report -/

/-- The bytes of a report, read off the sequence of writes that builds it. -/
theorem bytes_fromInput (state : InputState) :
    (fromInput state).bytes = #v[0x00, 0x14, padByte state, faceByte state,
      state.leftTrigger, state.rightTrigger,
      (toLeBytes state.leftStickX).1, (toLeBytes state.leftStickX).2,
      (toLeBytes state.leftStickY).1, (toLeBytes state.leftStickY).2,
      (toLeBytes state.rightStickX).1, (toLeBytes state.rightStickX).2,
      (toLeBytes state.rightStickY).1, (toLeBytes state.rightStickY).2,
      0x00, 0x00, 0x00, 0x00, 0x00, 0x00] := rfl

/-- A packed report reads as the state it was packed from. -/
theorem decode_fromInput (state : InputState) : decode (fromInput state) = state := by
  have pad := bits_packByte state.dpadUp state.dpadDown state.dpadLeft state.dpadRight
    state.start state.back state.l3 state.r3
  have face := bits_packByte state.lb state.rb state.guide false state.a state.b state.x state.y
  rw [← padByte_eq] at pad
  rw [← faceByte_eq] at face
  obtain ⟨up, down, left, right, start, back, l3, r3⟩ := pad
  obtain ⟨lb, rb, guide, -, a, b, x, y⟩ := face
  simp only [decode, bytes_fromInput, Vector.getElem_mk, List.getElem_toArray,
    List.getElem_cons_zero, List.getElem_cons_succ, up, down, left, right, start, back, l3, r3,
    lb, rb, guide, a, b, x, y, ofLeBytes_toLeBytes]

/-- A packed report has its fixed bytes in place. -/
theorem wellFormed_fromInput (state : InputState) : WellFormed (fromInput state) := by
  have reserved : bit (faceByte state) 3 = false := by
    rw [faceByte_eq]
    exact (bits_packByte _ _ _ _ _ _ _ _).2.2.2.1
  constructor
  · simp [bytes_fromInput]
  · simp [bytes_fromInput]
  · simp [bytes_fromInput, reserved]
  · intro i bound beyond
    simp only [bytes_fromInput]
    interval_cases i <;> rfl

/-- Every byte of a report but the fixed ones, packed from what it reads as. -/
theorem packedBytes_decode {report : InputReport} (reserved : bit report.bytes[3] 3 = false) :
    padByte (decode report) = report.bytes[2] ∧ faceByte (decode report) = report.bytes[3] := by
  constructor
  · exact packByte_bits report.bytes[2]
  · rw [faceByte_eq, ← packByte_bits report.bytes[3], reserved]
    rfl

/-- A well-formed report is packed from the state it reads as. -/
theorem fromInput_decode {report : InputReport} (wellFormed : WellFormed report) :
    fromInput (decode report) = report := by
  obtain ⟨pad, face⟩ := packedBytes_decode wellFormed.reserved
  have same : (fromInput (decode report)).bytes = report.bytes := by
    rw [bytes_fromInput, pad, face]
    apply Vector.ext
    intro i bound
    interval_cases i
    · exact wellFormed.reportId.symm
    · exact wellFormed.reportLength.symm
    · rfl
    · rfl
    · rfl
    · rfl
    · exact congrArg Prod.fst (toLeBytes_ofLeBytes report.bytes[6] report.bytes[7])
    · exact congrArg Prod.snd (toLeBytes_ofLeBytes report.bytes[6] report.bytes[7])
    · exact congrArg Prod.fst (toLeBytes_ofLeBytes report.bytes[8] report.bytes[9])
    · exact congrArg Prod.snd (toLeBytes_ofLeBytes report.bytes[8] report.bytes[9])
    · exact congrArg Prod.fst (toLeBytes_ofLeBytes report.bytes[10] report.bytes[11])
    · exact congrArg Prod.snd (toLeBytes_ofLeBytes report.bytes[10] report.bytes[11])
    · exact congrArg Prod.fst (toLeBytes_ofLeBytes report.bytes[12] report.bytes[13])
    · exact congrArg Prod.snd (toLeBytes_ofLeBytes report.bytes[12] report.bytes[13])
    all_goals exact (wellFormed.tail _ _ (by decide)).symm
  rw [← InputReport.mk.injEq] at same
  exact same

/-- Whatever a chain of builder calls leaves is read back from the packed report,
each control as its last call set it, and the packed reports are the well-formed
ones. -/
theorem inputReport_codec (state : InputState) (calls : List BuilderCall) (report : InputReport) :
    decode (fromInput (BuilderCall.applyAll calls state)) = BuilderCall.applyAll calls state ∧
      (∀ control, (decode (fromInput (BuilderCall.applyAll calls state))).get control =
        (BuilderCall.lastSet calls control).getD (state.get control)) ∧
      ((∃ packed, fromInput packed = report) ↔ WellFormed report) := by
  refine ⟨decode_fromInput _, ?_, ?_⟩
  · intro control
    rw [decode_fromInput]
    exact BuilderCall.get_applyAll calls state control
  · constructor
    · rintro ⟨packed, rfl⟩
      exact wellFormed_fromInput packed
    · intro wellFormed
      exact ⟨decode report, fromInput_decode wellFormed⟩

end InputReport

end X360Gadget.Protocol
