/-!
# Output packets from the host

`OutputReport.fromBytes` dispatches a raw packet on its first byte to the rumble
and LED parsers, each of which rechecks the length and the type bytes.
-/

namespace X360Gadget.Protocol

/-- Length of a rumble output report in bytes. -/
abbrev rumbleReportLen : Nat := 8

/-- Length of an LED output report in bytes. -/
abbrev ledReportLen : Nat := 3

/-- Motor strengths commanded by the host. -/
structure RumbleReport where
  leftMotor : UInt8
  rightMotor : UInt8
deriving DecidableEq, Repr

/-- Parse a rumble packet; each index is within the length just checked. -/
def RumbleReport.fromBytes (data : List UInt8) : Option RumbleReport :=
  if short : data.length < rumbleReportLen then
    none
  else
    have long : 8 ≤ data.length := Nat.le_of_not_lt short
    if data[0] ≠ 0x00 ∨ data[1] ≠ 0x08 then
      none
    else
      some { leftMotor := data[3], rightMotor := data[4] }

/-- LED ring animations, in the order of their protocol identifiers. -/
inductive LedAnimation where
  | allOff
  | allBlink
  | p1FlashOn
  | p2FlashOn
  | p3FlashOn
  | p4FlashOn
  | p1On
  | p2On
  | p3On
  | p4On
  | rotate
  | blinkPrev
  | slowBlink
  | altPairPrev
deriving DecidableEq, Repr

/-- Parse an animation identifier. -/
def LedAnimation.fromByte (b : UInt8) : Option LedAnimation :=
  match b.toNat with
  | 0x00 => some .allOff
  | 0x01 => some .allBlink
  | 0x02 => some .p1FlashOn
  | 0x03 => some .p2FlashOn
  | 0x04 => some .p3FlashOn
  | 0x05 => some .p4FlashOn
  | 0x06 => some .p1On
  | 0x07 => some .p2On
  | 0x08 => some .p3On
  | 0x09 => some .p4On
  | 0x0A => some .rotate
  | 0x0B => some .blinkPrev
  | 0x0C => some .slowBlink
  | 0x0D => some .altPairPrev
  | _ => none

/-- The animation the host requested. -/
structure LedReport where
  animation : LedAnimation
deriving DecidableEq, Repr

/-- Parse an LED packet; each index is within the length just checked. -/
def LedReport.fromBytes (data : List UInt8) : Option LedReport :=
  if short : data.length < ledReportLen then
    none
  else
    have long : 3 ≤ data.length := Nat.le_of_not_lt short
    if data[0] ≠ 0x01 ∨ data[1] ≠ 0x03 then
      none
    else
      (LedAnimation.fromByte data[2]).map fun animation => { animation }

/-- Either report the host can send. -/
inductive OutputReport where
  | rumble (report : RumbleReport)
  | led (report : LedReport)
deriving DecidableEq, Repr

/-- Dispatch a raw output packet on its first byte. -/
def OutputReport.fromBytes (data : List UInt8) : Option OutputReport :=
  match data.head? with
  | none => none
  | some first =>
      if first = 0x00 then
        (RumbleReport.fromBytes data).map .rumble
      else if first = 0x01 then
        (LedReport.fromBytes data).map .led
      else
        none

example : OutputReport.fromBytes [0x00, 0x08, 0x00, 0x10, 0x20, 0x00, 0x00, 0x00] =
    some (.rumble { leftMotor := 0x10, rightMotor := 0x20 }) := by decide

end X360Gadget.Protocol
