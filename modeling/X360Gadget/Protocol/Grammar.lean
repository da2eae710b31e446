import X360Gadget.Protocol.Output
import X360Gadget.Std.Outcome

/-!
# The grammar of output packets

Two packet shapes are accepted, told apart by their first byte. The parsers
recheck length and type bytes on their own, so the dispatcher is the union of
the two, and no byte past the ones they read matters.
-/

namespace X360Gadget.Protocol

open X360Gadget.Std

/-! ## Identifiers -/

/-- The discriminant of an animation, its identifier on the wire. -/
def LedAnimation.discriminant : LedAnimation → UInt8
  | .allOff => 0x00
  | .allBlink => 0x01
  | .p1FlashOn => 0x02
  | .p2FlashOn => 0x03
  | .p3FlashOn => 0x04
  | .p4FlashOn => 0x05
  | .p1On => 0x06
  | .p2On => 0x07
  | .p3On => 0x08
  | .p4On => 0x09
  | .rotate => 0x0A
  | .blinkPrev => 0x0B
  | .slowBlink => 0x0C
  | .altPairPrev => 0x0D

/-- Parsing an identifier finds the animation with that discriminant. -/
theorem LedAnimation.fromByte_eq_some_iff {b : UInt8} {animation : LedAnimation} :
    fromByte b = some animation ↔ animation.discriminant = b := by
  constructor
  · unfold fromByte
    split <;> rintro ⟨⟩ <;> rw [← UInt8.toNat_inj] <;> symm <;> assumption
  · rintro rfl
    cases animation <;> rfl

/-- Exactly the identifiers up to `0x0D` name an animation. -/
theorem LedAnimation.isSome_fromByte_iff {b : UInt8} : (fromByte b).isSome ↔ b ≤ 0x0D := by
  rw [UInt8.le_iff_toNat_le]
  change _ ↔ b.toNat ≤ 13
  unfold fromByte
  split <;> simp_all
  omega

/-! ## The two shapes -/

/-- The packet is a rumble command with these motor strengths. -/
structure IsRumble (data : List UInt8) (report : RumbleReport) : Prop where
  long : 8 ≤ data.length
  type : data[0]? = some 0x00
  length : data[1]? = some 0x08
  left : data[3]? = some report.leftMotor
  right : data[4]? = some report.rightMotor

/-- The packet is an LED command for this animation. -/
structure IsLed (data : List UInt8) (report : LedReport) : Prop where
  long : 3 ≤ data.length
  type : data[0]? = some 0x01
  length : data[1]? = some 0x03
  animation : data[2]? = some report.animation.discriminant

/-- The parser of rumbles accepts exactly the packets of the grammar. -/
theorem RumbleReport.fromBytes_eq_some_iff {data : List UInt8} {report : RumbleReport} :
    fromBytes data = some report ↔ IsRumble data report := by
  obtain ⟨leftMotor, rightMotor⟩ := report
  unfold fromBytes
  split
  · next short =>
      simp only [reduceCtorEq, false_iff]
      intro shape
      exact absurd shape.long (Nat.not_le_of_lt short)
  · next notShort =>
      have long : 8 ≤ data.length := Nat.le_of_not_lt notShort
      have at0 : data[0]? = some data[0] := List.getElem?_eq_getElem (by omega)
      have at1 : data[1]? = some data[1] := List.getElem?_eq_getElem (by omega)
      have at3 : data[3]? = some data[3] := List.getElem?_eq_getElem (by omega)
      have at4 : data[4]? = some data[4] := List.getElem?_eq_getElem (by omega)
      constructor
      · intro parsed
        dsimp only at parsed
        split at parsed
        · cases parsed
        · next types =>
            rw [not_or, Decidable.not_not, Decidable.not_not] at types
            rw [Option.some.injEq, RumbleReport.mk.injEq] at parsed
            exact ⟨long, at0.trans (congrArg some types.1), at1.trans (congrArg some types.2),
              at3.trans (congrArg some parsed.1), at4.trans (congrArg some parsed.2)⟩
      · rintro ⟨-, type, length, left, right⟩
        rw [at0, Option.some.injEq] at type
        rw [at1, Option.some.injEq] at length
        rw [at3, Option.some.injEq] at left
        rw [at4, Option.some.injEq] at right
        simp [type, length, left, right]

/-- The parser of LEDs accepts exactly the packets of the grammar. -/
theorem LedReport.fromBytes_eq_some_iff {data : List UInt8} {report : LedReport} :
    fromBytes data = some report ↔ IsLed data report := by
  obtain ⟨animation⟩ := report
  unfold fromBytes
  split
  · next short =>
      simp only [reduceCtorEq, false_iff]
      intro shape
      exact absurd shape.long (Nat.not_le_of_lt short)
  · next notShort =>
      have long : 3 ≤ data.length := Nat.le_of_not_lt notShort
      have at0 : data[0]? = some data[0] := List.getElem?_eq_getElem (by omega)
      have at1 : data[1]? = some data[1] := List.getElem?_eq_getElem (by omega)
      have at2 : data[2]? = some data[2] := List.getElem?_eq_getElem (by omega)
      constructor
      · intro parsed
        dsimp only at parsed
        split at parsed
        · cases parsed
        · next types =>
            rw [not_or, Decidable.not_not, Decidable.not_not] at types
            obtain ⟨found, identified, same⟩ := Option.map_eq_some_iff.mp parsed
            rw [LedAnimation.fromByte_eq_some_iff] at identified
            rw [LedReport.mk.injEq] at same
            rw [same] at identified
            exact ⟨long, at0.trans (congrArg some types.1), at1.trans (congrArg some types.2),
              at2.trans (congrArg some identified.symm)⟩
      · rintro ⟨-, type, length, identified⟩
        rw [at0, Option.some.injEq] at type
        rw [at1, Option.some.injEq] at length
        rw [at2, Option.some.injEq, eq_comm, ← LedAnimation.fromByte_eq_some_iff] at identified
        simp [type, length, identified]

/-- The dispatcher finds a rumble command exactly where the rumble parser does. -/
theorem OutputReport.fromBytes_eq_rumble_iff {data : List UInt8} {report : RumbleReport} :
    fromBytes data = some (.rumble report) ↔ RumbleReport.fromBytes data = some report := by
  constructor
  · unfold fromBytes
    split
    · rintro ⟨⟩
    · split
      · intro parsed
        obtain ⟨found, accepted, same⟩ := Option.map_eq_some_iff.mp parsed
        cases same
        exact accepted
      · split
        · intro parsed
          obtain ⟨found, accepted, same⟩ := Option.map_eq_some_iff.mp parsed
          cases same
        · rintro ⟨⟩
  · intro accepted
    have type := (RumbleReport.fromBytes_eq_some_iff.mp accepted).type
    rw [← List.head?_eq_getElem?] at type
    simp [fromBytes, type, accepted]

/-- The dispatcher finds an LED command exactly where the LED parser does. -/
theorem OutputReport.fromBytes_eq_led_iff {data : List UInt8} {report : LedReport} :
    fromBytes data = some (.led report) ↔ LedReport.fromBytes data = some report := by
  constructor
  · unfold fromBytes
    split
    · rintro ⟨⟩
    · split
      · intro parsed
        obtain ⟨found, accepted, same⟩ := Option.map_eq_some_iff.mp parsed
        cases same
      · split
        · intro parsed
          obtain ⟨found, accepted, same⟩ := Option.map_eq_some_iff.mp parsed
          cases same
          exact accepted
        · rintro ⟨⟩
  · intro accepted
    have type := (LedReport.fromBytes_eq_some_iff.mp accepted).type
    rw [← List.head?_eq_getElem?] at type
    simp [fromBytes, type, accepted]

/-- No packet is both. -/
theorem not_isRumble_and_isLed {data : List UInt8} {rumble : RumbleReport} {led : LedReport}
    (first : IsRumble data rumble) (second : IsLed data led) : False := by
  have same := first.type.symm.trans second.type
  cases same

/-! ## Every index is in range -/

/-- `data[i]`, which panics outside the slice. -/
def index (data : List UInt8) (i : Nat) : Except Panic UInt8 :=
  match data[i]? with
  | some byte => .ok byte
  | none => .error .outOfBounds

/-- `RumbleReport.fromBytes` with every index checked where the source evaluates it. -/
def RumbleReport.fromBytesIndexed (data : List UInt8) : Except Panic (Option RumbleReport) :=
  if data.length < rumbleReportLen then
    .ok none
  else do
    if (← index data 0) ≠ 0x00 then
      pure none
    else if (← index data 1) ≠ 0x08 then
      pure none
    else
      pure (some { leftMotor := ← index data 3, rightMotor := ← index data 4 })

/-- `LedReport.fromBytes` with every index checked where the source evaluates it. -/
def LedReport.fromBytesIndexed (data : List UInt8) : Except Panic (Option LedReport) :=
  if data.length < ledReportLen then
    .ok none
  else do
    if (← index data 0) ≠ 0x01 then
      pure none
    else if (← index data 1) ≠ 0x03 then
      pure none
    else
      pure ((LedAnimation.fromByte (← index data 2)).map fun animation => { animation })

/-- `OutputReport.fromBytes` over the indexed parsers. -/
def OutputReport.fromBytesIndexed (data : List UInt8) : Except Panic (Option OutputReport) :=
  match data.head? with
  | none => .ok none
  | some first =>
      if first = 0x00 then do
        pure ((← RumbleReport.fromBytesIndexed data).map .rumble)
      else if first = 0x01 then do
        pure ((← LedReport.fromBytesIndexed data).map .led)
      else
        .ok none

/-- An index within the bounds does not panic. -/
theorem index_of_lt {data : List UInt8} {i : Nat} (bound : i < data.length) :
    index data i = .ok data[i] := by
  rw [index, List.getElem?_eq_getElem bound]

/-- No index of the rumble parser is out of range. -/
theorem RumbleReport.fromBytesIndexed_eq (data : List UInt8) :
    fromBytesIndexed data = .ok (fromBytes data) := by
  unfold fromBytesIndexed fromBytes
  split
  · rfl
  · next notShort =>
      have long : 8 ≤ data.length := Nat.le_of_not_lt notShort
      simp only [index_of_lt (show 0 < data.length by omega),
        index_of_lt (show 1 < data.length by omega), index_of_lt (show 3 < data.length by omega),
        index_of_lt (show 4 < data.length by omega), bind, Except.bind]
      by_cases type : data[0] = 0x00
      · by_cases length : data[1] = 0x08
        · simp [type, length, pure, Except.pure]
        · simp [type, length, pure, Except.pure]
      · simp [type, pure, Except.pure]

/-- No index of the LED parser is out of range. -/
theorem LedReport.fromBytesIndexed_eq (data : List UInt8) :
    fromBytesIndexed data = .ok (fromBytes data) := by
  unfold fromBytesIndexed fromBytes
  split
  · rfl
  · next notShort =>
      have long : 3 ≤ data.length := Nat.le_of_not_lt notShort
      simp only [index_of_lt (show 0 < data.length by omega),
        index_of_lt (show 1 < data.length by omega), index_of_lt (show 2 < data.length by omega),
        bind, Except.bind]
      by_cases type : data[0] = 0x01
      · by_cases length : data[1] = 0x03
        · simp [type, length, pure, Except.pure]
        · simp [type, length, pure, Except.pure]
      · simp [type, pure, Except.pure]

/-- No index of the dispatcher or of the parser it calls is out of range. -/
theorem OutputReport.fromBytesIndexed_eq (data : List UInt8) :
    fromBytesIndexed data = .ok (fromBytes data) := by
  cases head : data.head? with
  | none => simp only [fromBytesIndexed, fromBytes, head]
  | some first =>
      simp only [fromBytesIndexed, fromBytes, head]
      split
      · rw [RumbleReport.fromBytesIndexed_eq]
        rfl
      · split
        · rw [LedReport.fromBytesIndexed_eq]
          rfl
        · rfl

/-! ## The whole grammar -/

/-- Some rumble command is in the packet exactly when its type bytes and length fit. -/
theorem exists_isRumble_iff {data : List UInt8} : (∃ report, IsRumble data report) ↔
    8 ≤ data.length ∧ data[0]? = some 0x00 ∧ data[1]? = some 0x08 := by
  constructor
  · rintro ⟨report, shape⟩
    exact ⟨shape.long, shape.type, shape.length⟩
  · rintro ⟨long, type, length⟩
    exact ⟨⟨data[3], data[4]⟩, long, type, length, List.getElem?_eq_getElem (by omega),
      List.getElem?_eq_getElem (by omega)⟩

/-- Some LED command is in the packet exactly when its identifier is also known. -/
theorem exists_isLed_iff {data : List UInt8} : (∃ report, IsLed data report) ↔
    3 ≤ data.length ∧ data[0]? = some 0x01 ∧ data[1]? = some 0x03 ∧
      ∃ id, data[2]? = some id ∧ id ≤ 0x0D := by
  constructor
  · rintro ⟨report, shape⟩
    refine ⟨shape.long, shape.type, shape.length, _, shape.animation, ?_⟩
    rw [← LedAnimation.isSome_fromByte_iff, LedAnimation.fromByte_eq_some_iff.mpr rfl]
    rfl
  · rintro ⟨long, type, length, id, identified, known⟩
    obtain ⟨animation, named⟩ := Option.isSome_iff_exists.mp
      (LedAnimation.isSome_fromByte_iff.mpr known)
    rw [LedAnimation.fromByte_eq_some_iff] at named
    exact ⟨⟨animation⟩, long, type, length, identified.trans (congrArg some named.symm)⟩

/-- The bytes of a rumble packet at the places that the parser reads. -/
theorem isRumble_iff {data : List UInt8} {l r : UInt8} : IsRumble data ⟨l, r⟩ ↔
    8 ≤ data.length ∧ data[0]? = some 0x00 ∧ data[1]? = some 0x08 ∧
      data[3]? = some l ∧ data[4]? = some r := by
  constructor
  · intro shape
    exact ⟨shape.long, shape.type, shape.length, shape.left, shape.right⟩
  · rintro ⟨long, type, length, left, right⟩
    exact ⟨long, type, length, left, right⟩

/-- The bytes of an LED packet at the places that the parser reads. -/
theorem isLed_iff {data : List UInt8} {a : LedAnimation} : IsLed data ⟨a⟩ ↔
    3 ≤ data.length ∧ data[0]? = some 0x01 ∧ data[1]? = some 0x03 ∧
      data[2]? = some a.discriminant := by
  constructor
  · intro shape
    exact ⟨shape.long, shape.type, shape.length, shape.animation⟩
  · rintro ⟨long, type, length, animation⟩
    exact ⟨long, type, length, animation⟩

/-- A rumble command stays one when bytes follow it. -/
theorem IsRumble.append {data : List UInt8} {report : RumbleReport} (shape : IsRumble data report)
    (suffix : List UInt8) : IsRumble (data ++ suffix) report := by
  have long := shape.long
  refine ⟨?_, ?_, ?_, ?_, ?_⟩
  · rw [List.length_append]
    omega
  · rw [List.getElem?_append_left (by omega), shape.type]
  · rw [List.getElem?_append_left (by omega), shape.length]
  · rw [List.getElem?_append_left (by omega), shape.left]
  · rw [List.getElem?_append_left (by omega), shape.right]

/-- An LED command stays one when bytes follow it. -/
theorem IsLed.append {data : List UInt8} {report : LedReport} (shape : IsLed data report)
    (suffix : List UInt8) : IsLed (data ++ suffix) report := by
  have long := shape.long
  refine ⟨?_, ?_, ?_, ?_⟩
  · rw [List.length_append]
    omega
  · rw [List.getElem?_append_left (by omega), shape.type]
  · rw [List.getElem?_append_left (by omega), shape.length]
  · rw [List.getElem?_append_left (by omega), shape.animation]

namespace OutputReport

/-- The packet holds this report. -/
def Holds (data : List UInt8) : OutputReport → Prop
  | .rumble report => IsRumble data report
  | .led report => IsLed data report

/-- The parser of output packets accepts exactly the packets of the grammar. -/
theorem fromBytes_eq_some_iff {data : List UInt8} {report : OutputReport} :
    fromBytes data = some report ↔ Holds data report := by
  cases report with
  | rumble report => exact fromBytes_eq_rumble_iff.trans RumbleReport.fromBytes_eq_some_iff
  | led report => exact fromBytes_eq_led_iff.trans LedReport.fromBytes_eq_some_iff

/-- The dispatcher accepts exactly what one of the two parsers accepts. -/
theorem isSome_fromBytes_iff (data : List UInt8) : (fromBytes data).isSome ↔
    (RumbleReport.fromBytes data).isSome ∨ (LedReport.fromBytes data).isSome := by
  simp only [Option.isSome_iff_exists]
  constructor
  · rintro ⟨report | report, parsed⟩
    · exact .inl ⟨report, fromBytes_eq_rumble_iff.mp parsed⟩
    · exact .inr ⟨report, fromBytes_eq_led_iff.mp parsed⟩
  · rintro (⟨report, parsed⟩ | ⟨report, parsed⟩)
    · exact ⟨.rumble report, fromBytes_eq_rumble_iff.mpr parsed⟩
    · exact ⟨.led report, fromBytes_eq_led_iff.mpr parsed⟩

/-- The two parsers never accept the same packet. -/
theorem not_both_isSome (data : List UInt8) :
    ¬((RumbleReport.fromBytes data).isSome ∧ (LedReport.fromBytes data).isSome) := by
  simp only [Option.isSome_iff_exists]
  rintro ⟨⟨rumble, first⟩, led, second⟩
  exact not_isRumble_and_isLed (RumbleReport.fromBytes_eq_some_iff.mp first)
    (LedReport.fromBytes_eq_some_iff.mp second)

/-- Nothing is found exactly in the packets of neither shape. -/
theorem fromBytes_eq_none_iff {data : List UInt8} : fromBytes data = none ↔
    ¬(∃ report, IsRumble data report) ∧ ¬∃ report, IsLed data report := by
  rw [Option.eq_none_iff_forall_ne_some]
  constructor
  · intro rejected
    refine ⟨?_, ?_⟩
    · rintro ⟨report, shape⟩
      exact rejected (.rumble report) (fromBytes_eq_some_iff.mpr shape)
    · rintro ⟨report, shape⟩
      exact rejected (.led report) (fromBytes_eq_some_iff.mpr shape)
  · rintro ⟨notRumble, notLed⟩ (report | report) parsed
    · exact notRumble ⟨report, fromBytes_eq_some_iff.mp parsed⟩
    · exact notLed ⟨report, fromBytes_eq_some_iff.mp parsed⟩

/-- An accepted packet keeps its meaning when bytes follow it. -/
theorem fromBytes_append {data : List UInt8} {report : OutputReport}
    (parsed : fromBytes data = some report) (suffix : List UInt8) :
    fromBytes (data ++ suffix) = some report := by
  rw [fromBytes_eq_some_iff] at parsed ⊢
  cases report with
  | rumble report => exact IsRumble.append parsed suffix
  | led report => exact IsLed.append parsed suffix

/-- The three parsers stay inside the slice. The dispatcher finds a report
exactly in the packets of its shape, and so is the disjoint union of the two
parsers; an accepted packet keeps its meaning whatever follows it. -/
theorem outputReport_grammar (data : List UInt8) :
    (fromBytesIndexed data = .ok (fromBytes data) ∧
      RumbleReport.fromBytesIndexed data = .ok (RumbleReport.fromBytes data) ∧
      LedReport.fromBytesIndexed data = .ok (LedReport.fromBytes data)) ∧
    (∀ l r, fromBytes data = some (.rumble ⟨l, r⟩) ↔
      8 ≤ data.length ∧ data[0]? = some 0x00 ∧ data[1]? = some 0x08 ∧
        data[3]? = some l ∧ data[4]? = some r) ∧
    (∀ a, fromBytes data = some (.led ⟨a⟩) ↔
      3 ≤ data.length ∧ data[0]? = some 0x01 ∧ data[1]? = some 0x03 ∧
        data[2]? = some a.discriminant) ∧
    (fromBytes data = none ↔
      ¬(8 ≤ data.length ∧ data[0]? = some 0x00 ∧ data[1]? = some 0x08) ∧
      ¬(3 ≤ data.length ∧ data[0]? = some 0x01 ∧ data[1]? = some 0x03 ∧
        ∃ id, data[2]? = some id ∧ id ≤ 0x0D)) ∧
    (∀ report, fromBytes data = some report ↔
      (∃ rumble, RumbleReport.fromBytes data = some rumble ∧ report = .rumble rumble) ∨
        (∃ led, LedReport.fromBytes data = some led ∧ report = .led led)) ∧
    ((fromBytes data).isSome ↔
      (RumbleReport.fromBytes data).isSome ∨ (LedReport.fromBytes data).isSome) ∧
    ¬((RumbleReport.fromBytes data).isSome ∧ (LedReport.fromBytes data).isSome) ∧
    (∀ report suffix, fromBytes data = some report →
      fromBytes (data ++ suffix) = some report) := by
  refine ⟨⟨fromBytesIndexed_eq data, RumbleReport.fromBytesIndexed_eq data,
    LedReport.fromBytesIndexed_eq data⟩, ?_, ?_, ?_, ?_, isSome_fromBytes_iff data,
    not_both_isSome data, ?_⟩
  · intro l r
    rw [fromBytes_eq_some_iff]
    exact isRumble_iff
  · intro a
    rw [fromBytes_eq_some_iff]
    exact isLed_iff
  · rw [← exists_isRumble_iff, ← exists_isLed_iff]
    exact fromBytes_eq_none_iff
  · intro report
    cases report with
    | rumble report => simp [fromBytes_eq_rumble_iff]
    | led report => simp [fromBytes_eq_led_iff]
  · intro report suffix parsed
    exact fromBytes_append parsed suffix

end OutputReport

end X360Gadget.Protocol
