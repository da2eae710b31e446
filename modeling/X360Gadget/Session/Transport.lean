import X360Gadget.Protocol.Input
import X360Gadget.Protocol.Output
import X360Gadget.Std.Method

/-!
# The transport trait

A `Transport` is the methods of one implementation; `pollOutput` is the method
the trait provides from the other two polls. `recording` puts a log of every
call before a transport: it returns what the transport returns and leaves it in
the same state, so what is proved about the log is about the calls a transport
receives.
-/

namespace X360Gadget.Session

open X360Gadget.Protocol X360Gadget.Std

variable {T E : Type}

/-- The provided `poll_output`: whichever report is pending, rumble first. -/
def pollOutputOf (pollRumble : UInt8 → Method T E (Option RumbleReport))
    (pollLed : UInt8 → Method T E (Option LedReport)) (interface : UInt8) :
    Method T E (Option OutputReport) :=
  (pollRumble interface).andThen fun
    | some r => .returns (some (.rumble r))
    | none => (pollLed interface).andThen fun
        | some l => .returns (some (.led l))
        | none => .returns none

/-- An implementation of the trait with state `T` and errors `E`. -/
structure Transport (T E : Type) where
  writeDescriptor : List UInt8 → Method T E Unit
  writeInputReport : UInt8 → InputReport → Method T E Unit
  pollRumble : UInt8 → Method T E (Option RumbleReport)
  pollLed : UInt8 → Method T E (Option LedReport)
  pollOutput : UInt8 → Method T E (Option OutputReport) := pollOutputOf pollRumble pollLed

/-! ## Recording the calls -/

/-- A call of a trait method with its arguments. -/
inductive TransportCall where
  | writeDescriptor (data : List UInt8)
  | writeInputReport (interface : UInt8) (report : InputReport)
  | pollRumble (interface : UInt8)
  | pollLed (interface : UInt8)
  | pollOutput (interface : UInt8)
deriving DecidableEq, Repr

/-- A call and how it ended. -/
structure Exchange where
  call : TransportCall
  ending : Ending
deriving DecidableEq, Repr

/-- A transport and the calls it received. -/
structure Recording (T : Type) where
  transport : T
  exchanges : List Exchange

/-- Log a call together with how it ended. -/
def record {R : Type} (call : TransportCall) (method : Method T E R) : Method (Recording T) E R :=
  fun self =>
    let exchanges := self.exchanges ++ [⟨call, method.ending self.transport⟩]
    match method self.transport with
    | .ok (returned, transport) => .ok (returned, { transport, exchanges })
    | .error (why, transport) => .error (why, { transport, exchanges })

/-- The transport with its calls recorded. -/
def recording (inner : Transport T E) : Transport (Recording T) E where
  writeDescriptor data := record (.writeDescriptor data) (inner.writeDescriptor data)
  writeInputReport interface report :=
    record (.writeInputReport interface report) (inner.writeInputReport interface report)
  pollRumble interface := record (.pollRumble interface) (inner.pollRumble interface)
  pollLed interface := record (.pollLed interface) (inner.pollLed interface)
  pollOutput interface := record (.pollOutput interface) (inner.pollOutput interface)

/-- A step of the environment, which makes no call. -/
def recorded (environment : T → T → Prop) (before after : Recording T) : Prop :=
  environment before.transport after.transport ∧ after.exchanges = before.exchanges

section Record

variable {R : Type} (call : TransportCall) (method : Method T E R) (self : Recording T)

/-- Recording changes no result. -/
@[simp] theorem result_record :
    (record call method).result self = method.result self.transport := by
  unfold Method.result record
  cases method self.transport <;> rfl

/-- Recording leaves the transport as the call does and logs the call. -/
@[simp] theorem stateAfter_record : (record call method).stateAfter self =
    { transport := method.stateAfter self.transport
      exchanges := self.exchanges ++ [⟨call, method.ending self.transport⟩] } := by
  unfold Method.stateAfter record
  cases method self.transport <;> rfl

end Record

end X360Gadget.Session
