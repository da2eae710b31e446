import X360Gadget.Transport.Control

/-!
# The ep0 loop

`ep0Iteration` is one iteration of `ep0_loop` on a given `EVENT_FETCH` result.
`handleEvent_handledAs` says everything handling an event can do; later modules
argue from it and unfold no handler.
-/

namespace X360Gadget.Transport

open X360Gadget.Descriptors X360Gadget.Kernel X360Gadget.Std

variable {K : Type}

/-- A RESET or DISCONNECT event. -/
def IsDetach (event : UsbRawControlEvent) : Prop :=
  event.typ = usbRawEventReset ∨ event.typ = usbRawEventDisconnect

instance (event : UsbRawControlEvent) : Decidable (IsDetach event) :=
  inferInstanceAs (Decidable (_ ∨ _))

/-- A control event carrying a standard SET_CONFIGURATION. -/
def Configures (event : UsbRawControlEvent) : Prop :=
  event.typ = usbRawEventControl ∧ IsSetConfiguration event.ctrl

instance (event : UsbRawControlEvent) : Decidable (Configures event) :=
  inferInstanceAs (Decidable (_ ∧ _))

/-- A RESET or DISCONNECT forgets every handle. -/
def clearEndpoints (w : Ep0World K) : Ep0World K :=
  { w with shared := w.shared.clearEndpoints }

/-- Act on one fetched event. -/
def handleEvent (os : Os K) (numInterfaces : UInt8) (desc : DescriptorBytes)
    (event : UsbRawControlEvent) (w : Ep0World K) : Outcome (Ep0World K) (Ep0World K) :=
  if event.typ = usbRawEventConnect then
    .ok w
  else if event.typ = usbRawEventReset ∨ event.typ = usbRawEventDisconnect then
    if w.poisoned then .error (.poisonedLock, w) else .ok (clearEndpoints w)
  else if event.typ = usbRawEventControl then
    handleControl os numInterfaces event.ctrl desc w
  else
    .ok w

/-- Whether the ep0 thread goes round again. -/
inductive Ep0Next where
  | again
  | exit
deriving DecidableEq, Repr

/-- Log that an event was handled to the end. -/
def markHandled (event : UsbRawControlEvent) (w : Ep0World K) : Ep0World K :=
  { w with log := w.log ++ [.handled event] }

/-- Recording that an event is handled appends it to those handled. -/
theorem handledEvents_markHandled {event : UsbRawControlEvent} {w : Ep0World K} :
    handledEvents (markHandled event w).log = handledEvents w.log ++ [event] := by
  simp [markHandled]

/-- One iteration of the loop on an `EVENT_FETCH` result; only EAGAIN is retried. -/
def ep0Iteration (os : Os K) (numInterfaces : UInt8) (desc : DescriptorBytes)
    (fetched : Except Errno UsbRawControlEvent) (w : Ep0World K) :
    Outcome (Ep0World K) (Ep0Next × Ep0World K) :=
  match fetched with
  | .error errno => if errno = eagain then .ok (.again, w) else .ok (.exit, w)
  | .ok event => do
      let w ← handleEvent os numInterfaces desc event w
      .ok (.again, markHandled event w)

/-! ## What handling an event can do -/

/-- The possible outcomes of handling an event. -/
inductive HandledAs (os : Os K) (n : Nat) (event : UsbRawControlEvent) (w : Ep0World K) :
    Outcome (Ep0World K) (Ep0World K) → Prop where
  | ignored (attached : ¬IsDetach event) (other : ¬Configures event) :
      HandledAs os n event w (.ok w)
  | detached (detach : IsDetach event) (sound : w.poisoned = false) :
      HandledAs os n event w (.ok (clearEndpoints w))
  | configured (configures : Configures event) (sound : w.poisoned = false) :
      HandledAs os n event w (.ok (configured os n w))
  | answered (attached : ¬IsDetach event) (other : ¬Configures event) (call : Syscall)
      (reply : isEp0Reply call = true) : HandledAs os n event w (.ok (w.issue os call))
  /-- A panic leaves everything as it was; a detach or a SET_CONFIGURATION panics
  only on a poisoned mutex. -/
  | panicked (why : Panic)
      (blocked : IsDetach event ∨ Configures event → w.poisoned = true) :
      HandledAs os n event w (.error (why, w))

private theorem attached_of_control {event : UsbRawControlEvent}
    (control : event.typ = usbRawEventControl) : ¬IsDetach event := by
  rw [IsDetach, control]
  decide

/-- A detach is no control event. -/
theorem not_configures_of_isDetach {event : UsbRawControlEvent} (detach : IsDetach event) :
    ¬Configures event :=
  fun configures => attached_of_control configures.1 detach

/-- Handling an event with at most four interfaces has one of these outcomes. -/
theorem handleEvent_handledAs {os : Os K} {numInterfaces : UInt8} {desc : DescriptorBytes}
    {event : UsbRawControlEvent} {w : Ep0World K} (few : numInterfaces.toNat ≤ 4) :
    HandledAs os numInterfaces.toNat event w (handleEvent os numInterfaces desc event w) := by
  unfold handleEvent
  by_cases connect : event.typ = usbRawEventConnect
  · rw [if_pos connect]
    refine .ignored ?_ ?_
    · rw [IsDetach, connect]
      decide
    · rintro ⟨control, -⟩
      exact absurd (connect.symm.trans control) (by decide)
  rw [if_neg connect]
  by_cases detach : event.typ = usbRawEventReset ∨ event.typ = usbRawEventDisconnect
  · rw [if_pos detach]
    cases poisoned : w.poisoned with
    | false => exact .detached detach poisoned
    | true => exact .panicked _ fun _ => poisoned
  rw [if_neg detach]
  by_cases control : event.typ = usbRawEventControl
  · rw [if_pos control]
    by_cases set : IsSetConfiguration event.ctrl
    · rw [handleControl_of_setConfiguration set]
      cases poisoned : w.poisoned with
      | false =>
          rw [setConfiguration_eq few poisoned]
          exact .configured ⟨control, set⟩ poisoned
      | true =>
          rw [setConfiguration, if_pos poisoned]
          exact .panicked _ fun _ => poisoned
    · have other : ¬Configures event := fun configures => set configures.2
      rw [handleControl_of_not_setConfiguration set]
      cases replied : controlReply desc event.ctrl with
      | some call => exact .answered detach other call (controlReply_isEp0Reply replied)
      | none =>
          refine .panicked _ ?_
          rintro (detaches | configures)
          · exact absurd detaches detach
          · exact absurd configures other
  · rw [if_neg control]
    exact .ignored detach fun configures => control configures.1

end X360Gadget.Transport
