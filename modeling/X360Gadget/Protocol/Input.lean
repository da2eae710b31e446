import X360Gadget.Controller
import X360Gadget.Std.Bits

/-!
# Input reports to the host
-/

namespace X360Gadget.Protocol

open X360Gadget.Std.Bits

/-- Length of an input report in bytes. -/
abbrev inputReportLen : Nat := 20

/-- A controller report as it goes over the wire. -/
structure InputReport where
  bytes : Vector UInt8 inputReportLen
deriving DecidableEq, Repr

namespace InputReport

/-- No buttons, sticks centred, triggers at zero. -/
def neutral : InputReport where
  bytes := #v[0x00, 0x14, 0x00, 0x00, 0x00, 0x00, 0x00, 0x00, 0x00, 0x00,
    0x00, 0x00, 0x00, 0x00, 0x00, 0x00, 0x00, 0x00, 0x00, 0x00]

/-- Byte 2: directions, start, back and the stick buttons. -/
def padByte (state : InputState) : UInt8 :=
  state.dpadUp.toUInt8 ||| state.dpadDown.toUInt8 <<< 1 ||| state.dpadLeft.toUInt8 <<< 2 |||
    state.dpadRight.toUInt8 <<< 3 ||| state.start.toUInt8 <<< 4 ||| state.back.toUInt8 <<< 5 |||
    state.l3.toUInt8 <<< 6 ||| state.r3.toUInt8 <<< 7

/-- Byte 3: shoulders, guide and the face buttons; bit 3 is reserved. -/
def faceByte (state : InputState) : UInt8 :=
  state.lb.toUInt8 ||| state.rb.toUInt8 <<< 1 ||| state.guide.toUInt8 <<< 2 |||
    state.a.toUInt8 <<< 4 ||| state.b.toUInt8 <<< 5 ||| state.x.toUInt8 <<< 6 |||
    state.y.toUInt8 <<< 7

/-- Serialise a controller state. -/
def fromInput (state : InputState) : InputReport :=
  let report := neutral.bytes
  let report := report.set 2 (padByte state)
  let report := report.set 3 (faceByte state)
  let report := report.set 4 state.leftTrigger
  let report := report.set 5 state.rightTrigger
  let lx := toLeBytes state.leftStickX
  let ly := toLeBytes state.leftStickY
  let rx := toLeBytes state.rightStickX
  let ry := toLeBytes state.rightStickY
  let report := (report.set 6 lx.1).set 7 lx.2
  let report := (report.set 8 ly.1).set 9 ly.2
  let report := (report.set 10 rx.1).set 11 rx.2
  let report := (report.set 12 ry.1).set 13 ry.2
  { bytes := report }

/-- The state a report describes, by the documented layout. -/
def decode (report : InputReport) : InputState where
  dpadUp := bit report.bytes[2] 0
  dpadDown := bit report.bytes[2] 1
  dpadLeft := bit report.bytes[2] 2
  dpadRight := bit report.bytes[2] 3
  start := bit report.bytes[2] 4
  back := bit report.bytes[2] 5
  l3 := bit report.bytes[2] 6
  r3 := bit report.bytes[2] 7
  lb := bit report.bytes[3] 0
  rb := bit report.bytes[3] 1
  guide := bit report.bytes[3] 2
  a := bit report.bytes[3] 4
  b := bit report.bytes[3] 5
  x := bit report.bytes[3] 6
  y := bit report.bytes[3] 7
  leftTrigger := report.bytes[4]
  rightTrigger := report.bytes[5]
  leftStickX := ofLeBytes report.bytes[6] report.bytes[7]
  leftStickY := ofLeBytes report.bytes[8] report.bytes[9]
  rightStickX := ofLeBytes report.bytes[10] report.bytes[11]
  rightStickY := ofLeBytes report.bytes[12] report.bytes[13]

/-- Take a raw packet over; a short one is refused and a long one cut. -/
def fromBytes (data : List UInt8) : Option InputReport :=
  if short : data.length < inputReportLen then
    none
  else
    some { bytes := ⟨(data.take inputReportLen).toArray, by simp; omega⟩ }

end InputReport

/-- The raw bytes of the report. -/
def InputReport.asBytes (report : InputReport) : List UInt8 :=
  report.bytes.toList

@[simp] theorem InputReport.length_asBytes (report : InputReport) :
    report.asBytes.length = inputReportLen := by
  simp [InputReport.asBytes]

namespace InputReport

/-- Exactly the packets of twenty bytes or more are taken over, cut to twenty. -/
theorem fromBytes_eq_some_iff {data : List UInt8} {report : InputReport} :
    fromBytes data = some report ↔
      inputReportLen ≤ data.length ∧ report.asBytes = data.take inputReportLen := by
  unfold fromBytes
  split
  · next short => simp [Nat.not_le_of_lt short]
  · next long =>
      rw [Option.some.injEq, and_iff_right (Nat.le_of_not_lt long)]
      constructor
      · rintro rfl
        simp [asBytes]
      · intro same
        obtain ⟨⟨⟨bytes⟩, size⟩⟩ := report
        simp only [asBytes, Vector.toList_mk] at same
        subst same
        rfl

/-- A report is read back from its own bytes. -/
theorem fromBytes_asBytes (report : InputReport) : fromBytes report.asBytes = some report := by
  rw [fromBytes_eq_some_iff, length_asBytes]
  exact ⟨Nat.le_refl _, (List.take_of_length_le (Nat.le_of_eq report.length_asBytes)).symm⟩

/-- Short packets are refused. -/
theorem fromBytes_eq_none_iff {data : List UInt8} :
    fromBytes data = none ↔ data.length < inputReportLen := by
  unfold fromBytes
  split
  · next short => simp [short]
  · next long => simp [long]

end InputReport

end X360Gadget.Protocol
