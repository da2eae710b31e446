import X360Gadget.Legacy.Reply
import X360Gadget.Legacy.Reset

/-!
# What the C gadget keeps to itself

The transfer of a request lies on the stack, over whatever was there before. Its
handler never writes past it and never passes on what it did not write: events
that differ in the stack alone are handled alike, down to the bytes the kernel
copies. The process ends only where the program says so.
-/

namespace X360Gadget.Legacy

open X360Gadget.Kernel X360Gadget.Std
open X360Gadget.Transport (IsSetConfiguration)

variable {K : Type} {os : Os K} {n : Nat}

/-- At most four interfaces leave the transfer buffer room. -/
theorem fits_of_few (few : n ≤ 4) : 9 + n * 43 ≤ ep0MaxData := by
  change 9 + n * 43 ≤ 16384
  omega

/-- The kernel when a handler returned or the process ended. -/
def finalKernel : Handler K (LegacyWorld K) → K
  | .ok w => w.kernel
  | .error (_, w) => w.kernel

/-! ## The stack -/

/-- The event over a cleared stack. -/
def Fetched.erase (fetched : Fetched) : Fetched :=
  { fetched with stack := Vector.replicate 16384 0 }

/-- Calls that the kernel sees alike are answered alike. -/
theorem reply_congr (reads : ReadsTransfers os) (ctrl : UsbCtrlrequest) {first second : Syscall}
    (same : first.transfer = second.transfer) (w : LegacyWorld K) :
    reply os ctrl first w = reply os ctrl second w := by
  have served := reads w.kernel first second same
  rw [reply, reply, ioctl, ioctl, LegacyWorld.after, LegacyWorld.after, served]

/-- A request is handled alike over every stack. -/
theorem handleControl_stack (reads : ReadsTransfers os) (few : n ≤ 4) (ctrl : UsbCtrlrequest)
    (first second : Vector UInt8 16384) (w : LegacyWorld K) :
    handleControl os n ctrl first w = handleControl os n ctrl second w := by
  cases known : requestBytes n ctrl with
  | none =>
      rw [handleControl_of_unknown os first w known, handleControl_of_unknown os second w known]
  | some bytes =>
      by_cases set : IsSetConfiguration ctrl
      · obtain ⟨call, carries, handled⟩ := handleControl_of_setConfiguration os (n := n) first w set
        obtain ⟨other, alsoCarries, alsoHandled⟩ :=
          handleControl_of_setConfiguration os (n := n) second w set
        rw [handled, alsoHandled]
        congr 1
        funext configured
        exact reply_congr reads ctrl (carries.trans alsoCarries.symm) configured
      · obtain ⟨call, carries, handled⟩ :=
          handleControl_of_known os first w (fits_of_few few) known set
        obtain ⟨other, alsoCarries, alsoHandled⟩ :=
          handleControl_of_known os second w (fits_of_few few) known set
        rw [handled, alsoHandled]
        exact reply_congr reads ctrl (carries.trans alsoCarries.symm) w

/-- Only the handler of a control event has the stack in reach. -/
theorem ep0Iteration_erase (reads : ReadsTransfers os) (few : n ≤ 4) (fetched : Fetched)
    (w : LegacyWorld K) : ep0Iteration os n fetched.erase w = ep0Iteration os n fetched w := by
  have handled := handleControl_stack reads few fetched.event.ctrl fetched.erase.stack
    fetched.stack w
  unfold ep0Iteration
  exact if_congr Iff.rfl rfl (if_congr Iff.rfl rfl (if_congr Iff.rfl handled rfl))

/-- Whatever the stack holds, a run makes the same calls with the same bytes and
ends in the same state or for the same reason. -/
theorem stack_not_served (reads : ReadsTransfers os) (few : n ≤ 4) {first second : List Fetched}
    (same : first.map Fetched.erase = second.map Fetched.erase)
    (start : Handler (K × List Transfer) (LegacyWorld (K × List Transfer))) :
    (legacy os.traced n).run start first = (legacy os.traced n).run start second := by
  have blind : ∀ state fetched, (legacy os.traced n).step state fetched.erase =
      (legacy os.traced n).step state fetched := by
    intro state fetched
    cases state with
    | ok w => exact congrArg some (ep0Iteration_erase reads.traced few fetched w)
    | error stop => rfl
  rw [← Machine.run_map _ blind start first, same, Machine.run_map _ blind start second]

/-- A vendor request for as many bytes as the buffer has. -/
def Fetched.vendorRead (stack : Vector UInt8 16384) : Fetched where
  event := { typ := usbRawEventControl, ctrl := ⟨0xC1, 0x01, 0, 0, 16384⟩ }
  epsInfo := .error 22
  stack

/-- It is answered alike over zeros and over ones. -/
theorem stack_not_served_vendorRead :
    (legacy Os.lowestHandle.traced 4).run (.ok (.new (∅, [])))
        [.vendorRead (Vector.replicate 16384 0x00)] =
      (legacy Os.lowestHandle.traced 4).run (.ok (.new (∅, [])))
        [.vendorRead (Vector.replicate 16384 0xFF)] := by
  apply stack_not_served readsTransfers_lowestHandle (Nat.le_refl 4)
  have erased : ∀ stack, (Fetched.vendorRead stack).erase =
      .vendorRead (Vector.replicate 16384 0) := fun _ => rfl
  rw [List.map_singleton, List.map_singleton, erased, erased]

/-! ## Why the process ends -/

/-- The ends that the program provides for: a failed call other than a stall, a
request it does not know, and the two assertions on surveyed endpoints. -/
def Foreseen : Stop → Prop
  | .exit wrapper => wrapper ≠ .usbRawEp0Stall
  | .unknownRequest => True
  | .survey assertion => assertion ≠ .endpointType
  | .configLength => False
  | .outOfBounds => False

/-- The end of a process, if it ended, was foreseen. -/
abbrev EndsForeseen {Result : Type} : Handler K Result → Prop :=
  Ends (fun stop => Foreseen stop.1) fun _ => True

/-- A wrapper other than the stall ends the process as foreseen. -/
theorem ioctl_foreseen {wrapper : Wrapper} (other : wrapper ≠ .usbRawEp0Stall)
    (w : LegacyWorld K) (call : Syscall) : EndsForeseen (ioctl os w wrapper call) := by
  rw [ioctl]
  cases (os.serve w.kernel call).1.result with
  | ok rv => exact trivial
  | error errno => exact other

/-- Two calls of a loop round, both of them foreseen. -/
theorem enableInterface_foreseen (w : LegacyWorld K) (i : Nat) :
    EndsForeseen (enableInterface os w i) :=
  Ends.bind (ioctl_foreseen (by decide) w _) fun _ _ =>
    Ends.bind (ioctl_foreseen (by decide) _ _) fun _ _ => trivial

/-- Disabling an interface can only end in a foreseen way. -/
theorem disableInterface_foreseen (w : LegacyWorld K) (i : Nat) :
    EndsForeseen (disableInterface os w i) :=
  Ends.bind (ioctl_foreseen (by decide) w _) fun _ _ =>
    Ends.bind (ioctl_foreseen (by decide) _ _) fun _ _ => trivial

/-- Enabling the interfaces can only end in a foreseen way. -/
theorem setConfiguration_foreseen (w : LegacyWorld K) :
    EndsForeseen (setConfiguration os n w) := by
  refine Ends.bind (Ends.foldlM (fun w i _ => enableInterface_foreseen w i) trivial) ?_
  intro w _
  refine Ends.bind (ioctl_foreseen (by decide) _ _) ?_
  intro powered _
  exact Ends.bind (ioctl_foreseen (by decide) _ _) fun _ _ => trivial

/-- The answer to a request can only end in a foreseen way. -/
theorem reply_foreseen (ctrl : UsbCtrlrequest) (call : Syscall) (w : LegacyWorld K) :
    EndsForeseen (reply os ctrl call w) := by
  have other : answerWrapper ctrl ≠ .usbRawEp0Stall := by
    unfold answerWrapper
    split <;> decide
  have ends : EndsForeseen (ioctl os w (answerWrapper ctrl) call) := ioctl_foreseen other w call
  unfold reply
  cases called : ioctl os w (answerWrapper ctrl) call with
  | ok answered => exact trivial
  | error stop =>
      rw [called] at ends
      exact ends

/-- A control request can only end in a foreseen way, on at most four interfaces. -/
theorem handleControl_foreseen (few : n ≤ 4) (ctrl : UsbCtrlrequest)
    (stack : Vector UInt8 16384) (w : LegacyWorld K) :
    EndsForeseen (handleControl os n ctrl stack w) := by
  cases known : requestBytes n ctrl with
  | none =>
      rw [handleControl_of_unknown os stack w known]
      exact trivial
  | some bytes =>
      by_cases set : IsSetConfiguration ctrl
      · obtain ⟨call, -, handled⟩ := handleControl_of_setConfiguration os (n := n) stack w set
        rw [handled]
        exact Ends.bind (setConfiguration_foreseen w) fun w _ => reply_foreseen ctrl call w
      · obtain ⟨call, -, handled⟩ :=
          handleControl_of_known os stack w (fits_of_few few) known set
        rw [handled]
        exact reply_foreseen ctrl call w

/-- The survey on a connect can only end in a foreseen way. -/
theorem handleConnect_foreseen (epsInfo : Except Errno UsbRawEpsInfo) (w : LegacyWorld K) :
    EndsForeseen (handleConnect epsInfo w) := by
  cases epsInfo with
  | error errno => exact Wrapper.noConfusion
  | ok info =>
      have survey := processEpsInfo_ends info w.addr
      rw [handleConnect]
      cases surveyed : processEpsInfo info w.addr with
      | ok addr => exact trivial
      | error assertion =>
          rw [surveyed] at survey
          exact survey

/-- A reset can only end in a foreseen way. -/
theorem handleReset_foreseen (w : LegacyWorld K) : EndsForeseen (handleReset os n w) := by
  refine Ends.ite ?_ trivial
  refine Ends.bind (Ends.foldlM (fun w i _ => disableInterface_foreseen w i) trivial) ?_
  intro w _
  exact trivial

/-- Handling an event ends the process for a foreseen reason or not at all. -/
theorem ep0Iteration_foreseen (few : n ≤ 4) (fetched : Fetched) (w : LegacyWorld K) :
    EndsForeseen (ep0Iteration os n fetched w) := by
  apply Ends.ite (handleConnect_foreseen _ w)
  apply Ends.ite (handleReset_foreseen w)
  exact Ends.ite (handleControl_foreseen few _ _ w) trivial

/-- No run writes past the transfer buffer, fails an assertion of `build_config` or
of `assign_ep_address`, or stalls endpoint zero. -/
theorem endsForeseen_of_run (few : n ≤ 4) {w : LegacyWorld K} {events : List Fetched}
    {result : Handler K (LegacyWorld K)}
    (runs : (legacy os n).run (.ok w) events = some result) : EndsForeseen result := by
  have start : EndsForeseen (.ok w : Handler K (LegacyWorld K)) := trivial
  refine (legacy os n).run_invariant EndsForeseen ?_ start runs
  rintro (stop | w) fetched next ends stepped
  · cases stepped
  · cases stepped
    exact ep0Iteration_foreseen few fetched w

/-- A request of a reserved type ends the process, as foreseen. -/
theorem endsForeseen_of_run_reserved : ∃ result,
    (legacy Os.lowestHandle 4).run (.ok (.new ∅))
        [.of { typ := usbRawEventControl, ctrl := ⟨0x60, 0, 0, 0, 0⟩ }] = some result ∧
      EndsForeseen result := by
  obtain ⟨result, runs⟩ : ∃ result, (legacy Os.lowestHandle 4).run (.ok (.new ∅))
      [.of { typ := usbRawEventControl, ctrl := ⟨0x60, 0, 0, 0, 0⟩ }] = some result := ⟨_, rfl⟩
  exact ⟨result, runs, endsForeseen_of_run (Nat.le_refl 4) runs⟩

end X360Gadget.Legacy
