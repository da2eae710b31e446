import X360Gadget.Protocol.Grammar
import X360Gadget.Session.Receiver

/-!
# The calls on an open handle

A handle points to a receiver or is NULL, so the state of a call is an optional
receiver. A panic cannot leave these functions: it ends the process.
-/

namespace X360Gadget.Capi

open X360Gadget.Protocol X360Gadget.Session X360Gadget.Std
open WirelessReceiver

variable {T E : Type}

/-- `as u8` of a `c_int`. -/
def asU8 (value : Int32) : UInt8 := value.toUInt32.toUInt8

/-- The cast keeps the value modulo 256. -/
theorem toNat_asU8 (value : Int32) : ((asU8 value).toNat : Int) = value.toInt % 256 := by
  have word : value.toInt = value.toUInt32.toNat ∨
      value.toInt = value.toUInt32.toNat - 4294967296 := by
    have split := BitVec.toInt_eq_toNat_cond value.toBitVec
    change value.toInt = if 2 * value.toUInt32.toNat < 2 ^ 32 then
      (value.toUInt32.toNat : Int) else value.toUInt32.toNat - (2 ^ 32 : Nat) at split
    rw [split]
    split
    · exact .inl rfl
    · exact .inr rfl
  rw [asU8, UInt32.toNat_toUInt8]
  omega

/-- A receiver method called through a live handle, its result as a code. -/
def through {R Code : Type} (method : Method (WirelessReceiver T) E R) (code : Except E R → Code)
    (receiver : WirelessReceiver T) :
    Outcome (Option (WirelessReceiver T)) (Except Empty Code × Option (WirelessReceiver T)) :=
  match method receiver with
  | .ok (returned, receiver) => .ok (.ok (code returned), some receiver)
  | .error (why, receiver) => .error (why, some receiver)

section Through

variable {R Code : Type} (method : Method (WirelessReceiver T) E R) (code : Except E R → Code)
  {call : Method (Option (WirelessReceiver T)) Empty Code} {receiver : WirelessReceiver T}

/-- A call through a handle returns the code of what the method returns. -/
theorem result_through (called : call (some receiver) = through method code receiver) :
    call.result (some receiver) =
      (method.result receiver).map fun returned => .ok (code returned) := by
  unfold Method.result
  rw [called, through]
  cases method receiver <;> rfl

/-- A call through a handle leaves the receiver as the method leaves it. -/
theorem stateAfter_through (called : call (some receiver) = through method code receiver) :
    call.stateAfter (some receiver) = some (method.stateAfter receiver) := by
  unfold Method.stateAfter
  rw [called, through]
  cases method receiver <;> rfl

end Through

section Calls

/-- 1 on success, 0 on error. -/
def sendCode : Except E Unit → Int32
  | .ok () => 1
  | .error _ => 0

/-- 1 with a report, 0 without, -1 on error. -/
def rumbleCode : Except E (Option RumbleReport) → Int32 × Option RumbleReport
  | .ok (some r) => (1, some r)
  | .ok none => (0, none)
  | .error _ => (-1, none)

/-- The animation's identifier, -1 without a report, -2 on error. -/
def ledCode : Except E (Option LedReport) → Int32
  | .ok (some l) => Int32.ofNat l.animation.discriminant.toNat
  | .ok none => -1
  | .error _ => -2

variable (transport : Transport T E)

/-- Send a raw report; `data` is NULL or the `len` bytes it points to. -/
def x360Send (slot : Int32) (data : Option (List UInt8)) :
    Method (Option (WirelessReceiver T)) Empty Int32 := fun handle =>
  match handle, data with
  | none, _ => .ok (.ok 0, handle)
  | _, none => .ok (.ok 0, handle)
  | some receiver, some bytes =>
      if bytes.length = 0 then .ok (.ok 0, handle)
      else through (sendRawInput transport (asU8 slot) bytes) sendCode receiver

/-- Poll for rumble; the flags say which out pointers are not NULL. A report is
what the call writes to `*left_out` and `*right_out`. -/
def x360PollRumble (slot : Int32) (leftOut rightOut : Bool) :
    Method (Option (WirelessReceiver T)) Empty (Int32 × Option RumbleReport) := fun handle =>
  match handle with
  | none => .ok (.ok (-1, none), handle)
  | some receiver =>
      if ¬leftOut ∨ ¬rightOut then .ok (.ok (-1, none), handle)
      else through (pollRumble transport (asU8 slot)) rumbleCode receiver

/-- Poll for an LED animation. -/
def x360PollLed (slot : Int32) : Method (Option (WirelessReceiver T)) Empty Int32 := fun handle =>
  match handle with
  | none => .ok (.ok (-2), handle)
  | some receiver =>
      through (pollLed transport (asU8 slot)) ledCode receiver

end Calls

/-- The calls a transport receives from one call on a live handle. -/
def exchangesOf {Code : Type} (call : Method (Option (WirelessReceiver (Recording T))) Empty Code)
    (receiver : WirelessReceiver (Recording T)) : List Exchange :=
  match call.stateAfter (some receiver) with
  | some after => after.transport.exchanges.drop receiver.transport.exchanges.length
  | none => []

/-- The exchanges of a call are the entries by which its log grows. -/
theorem exchangesOf_eq {Code : Type}
    {call : Method (Option (WirelessReceiver (Recording T))) Empty Code}
    {receiver after : WirelessReceiver (Recording T)} {entries : List Exchange}
    (left : call.stateAfter (some receiver) = some after)
    (logged : after.transport.exchanges = receiver.transport.exchanges ++ entries) :
    exchangesOf call receiver = entries := by
  rw [exchangesOf, left]
  dsimp only
  rw [logged, List.drop_left]

end X360Gadget.Capi
