import Mathlib.Data.Finset.Card
import X360Gadget.Kernel.Driver
import X360Gadget.Legacy.Ep0

/-!
# Resets of the C gadget

A RESET disables endpoint numbers that are computed from the descriptors, not
the handles that EP_ENABLE returned. The two endpoints of an interface share
their number, so the second call names an endpoint that is not enabled and the
process exits: a RESET is handled cleanly exactly when no configuration is to be
torn down.
-/

namespace X360Gadget.Legacy

open X360Gadget.Kernel X360Gadget.Std

variable {K : Type} {os : Os K} {enabled : K → Finset Int32}

/-- The process did not exit in `usb_raw_ep_disable`. -/
def NotDisabling (stop : Stop × LegacyWorld K) : Prop := stop.1 ≠ .exit .usbRawEpDisable

/-- Without a configuration no endpoint is enabled. -/
def Idle (enabled : K → Finset Int32) (w : LegacyWorld K) : Prop :=
  w.epIntEnabled = false → enabled w.kernel = ∅

/-- An event never ends in the exit of `usb_raw_ep_disable`, and a RESET that is
handled leaves no endpoint enabled and no configuration. -/
def ResetsCleanly (enabled : K → Finset Int32) (fetched : Fetched)
    (next : Handler K (LegacyWorld K)) : Prop :=
  Ends NotDisabling (fun w => fetched.event.typ = usbRawEventReset →
    enabled w.kernel = ∅ ∧ w.epIntEnabled = false) next

/-- No RESET is fetched while a configuration is enabled. -/
def NoResetWhileEnabled (state : Handler K (LegacyWorld K)) (fetched : Fetched) : Prop :=
  Ends (fun _ => True) (fun w => fetched.event.typ = usbRawEventReset → w.epIntEnabled = false)
    state

/-! ## Events other than RESET -/

section Other

variable {w : LegacyWorld K} {wrapper : Wrapper} {call : Syscall} {n : Nat}

/-- A call that enables and disables nothing keeps an idle world idle. -/
theorem Idle.after (idle : Idle enabled w) (lawful : LawfulHandles os enabled)
    (notEnable : ∀ desc, call ≠ .epEnable desc) (notDisable : ∀ ep, call ≠ .epDisable ep) :
    Idle enabled (w.after os call) := by
  intro unconfigured
  have same : enabled (w.after os call).kernel = enabled w.kernel :=
    lawful.after_other w.kernel call notEnable notDisable
  rw [same]
  exact idle unconfigured

/-- Another wrapper exits on its own behalf. -/
theorem notDisabling_exit (other : wrapper ≠ .usbRawEpDisable) :
    NotDisabling (.exit wrapper, w) := by
  intro same
  cases same
  exact other rfl

/-- What follows a call of another wrapper starts where the call left the world. -/
theorem ioctl_bind {Result : Type} {returned : Result → Prop}
    {rest : Int32 × LegacyWorld K → Handler K Result} (other : wrapper ≠ .usbRawEpDisable)
    (next : ∀ rv, Ends NotDisabling returned (rest (rv, w.after os call))) :
    Ends NotDisabling returned (ioctl os w wrapper call >>= rest) := by
  rw [ioctl]
  cases (os.serve w.kernel call).1.result with
  | ok rv => exact next rv
  | error errno => exact notDisabling_exit other

/-- Building a descriptor makes no call. -/
theorem getDescriptor_ends (value : UInt16) (io : UsbRawControlEp0Io) :
    Ends (· ≠ .exit .usbRawEpDisable) (fun _ => True) (getDescriptor n value io) := by
  have filled : ∀ filled : Option UsbRawControlEp0Io,
      Ends (· ≠ .exit .usbRawEpDisable) (fun _ => True) (orOutOfBounds filled) := by
    intro filled
    cases filled with
    | some io => exact trivial
    | none => exact Stop.noConfusion
  have config : ∀ otherSpeed,
      Ends (· ≠ .exit .usbRawEpDisable) (fun _ => True) (replyConfig n otherSpeed io) := by
    intro otherSpeed
    unfold replyConfig
    split
    · exact filled _
    · exact Stop.noConfusion
  apply Ends.ite (filled _)
  apply Ends.ite (filled _)
  apply Ends.ite (config false)
  apply Ends.ite (config true)
  apply Ends.ite
  · apply Ends.ite (filled _)
    apply Ends.ite (filled _)
    apply Ends.ite (filled _)
    apply Ends.ite (filled _)
    exact trivial
  · exact trivial

/-- A SET_CONFIGURATION that returns leaves a configuration. -/
theorem setConfiguration_ends (enabled : K → Finset Int32) :
    Ends NotDisabling (Idle enabled) (setConfiguration os n w) := by
  have round : ∀ w i, True → Ends NotDisabling (fun _ => True) (enableInterface os w i) := by
    intro w i _
    apply ioctl_bind (by decide)
    intro rv
    apply ioctl_bind (by decide)
    intro rv
    exact trivial
  refine Ends.bind (Ends.foldlM round trivial) ?_
  rintro w -
  apply ioctl_bind (by decide)
  intro rv
  apply ioctl_bind (by decide)
  -- ep_int_enabled is set by now, so nothing is left to show about the kernel.
  rintro rv ⟨⟩

/-- A request that returns leaves an idle world or a configuration. -/
theorem ep0Request_ends (idle : Idle enabled w) (ctrl : UsbCtrlrequest)
    (io : UsbRawControlEp0Io) :
    Ends NotDisabling (fun answer => Idle enabled answer.2.2) (ep0Request os n ctrl io w) := by
  have descriptor := getDescriptor_ends (n := n) ctrl.wValue io
  have unknown : NotDisabling (K := K) (.unknownRequest, w) := Stop.noConfusion
  apply Ends.ite
  · apply Ends.ite
    · cases built : getDescriptor n ctrl.wValue io with
      | ok io => exact idle
      | error stop =>
          rw [built] at descriptor
          exact descriptor
    apply Ends.ite
    · refine Ends.bind (setConfiguration_ends enabled) ?_
      intro w configured
      exact configured
    apply Ends.ite
    · split
      · exact idle
      · exact Stop.noConfusion
    · exact unknown
  · exact Ends.ite idle unknown

/-- A call that concerns no endpoint keeps an idle world idle. -/
theorem ioctl_ends (lawful : LawfulHandles os enabled) (idle : Idle enabled w)
    (other : wrapper ≠ .usbRawEpDisable) (notEnable : ∀ desc, call ≠ .epEnable desc)
    (notDisable : ∀ ep, call ≠ .epDisable ep) :
    Ends NotDisabling (fun answer => Idle enabled answer.2) (ioctl os w wrapper call) := by
  rw [ioctl]
  cases (os.serve w.kernel call).1.result with
  | ok rv => exact idle.after lawful notEnable notDisable
  | error errno => exact notDisabling_exit other

/-- Answering a request keeps an idle world idle. -/
theorem answer_ends (lawful : LawfulHandles os enabled) (idle : Idle enabled w) (reply : Bool)
    (ctrl : UsbCtrlrequest) (io : UsbRawControlEp0Io) :
    Ends NotDisabling (fun answered => Idle enabled answered.2) (answer os reply ctrl io w) := by
  apply Ends.ite
  · exact ioctl_ends lawful idle (by decide) (fun _ => Syscall.noConfusion)
      fun _ => Syscall.noConfusion
  apply Ends.ite
  · exact ioctl_ends lawful idle (by decide) (fun _ => Syscall.noConfusion)
      fun _ => Syscall.noConfusion
  · exact ioctl_ends lawful idle (by decide) (fun _ => Syscall.noConfusion)
      fun _ => Syscall.noConfusion

/-- A control event that is handled leaves an idle world or a configuration. -/
theorem handleControl_ends (lawful : LawfulHandles os enabled) (idle : Idle enabled w)
    (ctrl : UsbCtrlrequest) (stack : Vector UInt8 16384) :
    Ends NotDisabling (Idle enabled) (handleControl os n ctrl stack w) := by
  refine Ends.bind (ep0Request_ends idle ctrl _) ?_
  rintro ⟨reply, io, w⟩ idle
  refine Ends.bind (answer_ends lawful idle reply ctrl io) ?_
  rintro ⟨rv, w⟩ idle
  exact idle

/-- The survey touches neither the kernel nor the configuration. -/
theorem handleConnect_ends (idle : Idle enabled w) (epsInfo : Except Errno UsbRawEpsInfo) :
    Ends NotDisabling (Idle enabled) (handleConnect epsInfo w) := by
  unfold handleConnect
  split
  · exact notDisabling_exit (by decide)
  split
  · exact idle
  · exact Stop.noConfusion

end Other

/-! ## RESET -/

section Reset

variable {w : LegacyWorld K}

/-- The second call for an interface names an endpoint that is not enabled. -/
theorem disableInterface_exits (lawful : LawfulHandles os enabled) (i : Nat) :
    ∃ after, disableInterface os w i = .error (.exit .usbRawEpDisable, after) := by
  have number : Int32.ofNat (usbEndpointNum (getIfX i).epOut).toNat =
      Int32.ofNat (usbEndpointNum (getIfX i).epIn).toNat := by
    rw [usbEndpointNum_epOut]
  simp only [disableInterface, usbRawEpDisable, number]
  generalize Int32.ofNat (usbEndpointNum (getIfX i).epIn).toNat = ep
  cases first : (os.serve w.kernel (.epDisable ep)).1.result with
  | error errno =>
      refine ⟨w.after os (.epDisable ep), ?_⟩
      rw [ioctl, first]
      rfl
  | ok rv =>
      have gone : ep ∉ enabled (w.after os (.epDisable ep)).kernel := by
        have erased : enabled (w.after os (.epDisable ep)).kernel = (enabled w.kernel).erase ep :=
          lawful.after_disable w.kernel ep
        rw [erased]
        exact Finset.notMem_erase ep _
      cases second : (os.serve (w.after os (.epDisable ep)).kernel (.epDisable ep)).1.result with
      | ok rv =>
          refine absurd ((lawful.disable_iff _ _).mp ?_) gone
          rw [second]
          rfl
      | error errno =>
          refine ⟨(w.after os (.epDisable ep)).after os (.epDisable ep), ?_⟩
          rw [ioctl, first]
          change (ioctl os (w.after os (.epDisable ep)) .usbRawEpDisable (.epDisable ep) >>= _) = _
          rw [ioctl, second]
          rfl

/-- A RESET under a configuration ends the process. -/
theorem handleReset_enabled (lawful : LawfulHandles os enabled) {n : Nat} (nonempty : 1 ≤ n)
    (configured : w.epIntEnabled = true) :
    ∃ after, handleReset os n w = .error (.exit .usbRawEpDisable, after) := by
  obtain ⟨rest, rounds⟩ : ∃ rest, List.range n = 0 :: rest := by
    obtain ⟨count, rfl⟩ := Nat.exists_eq_add_of_le' nonempty
    exact ⟨_, List.range_succ_eq_map⟩
  obtain ⟨after, exited⟩ := disableInterface_exits (w := w) lawful 0
  refine ⟨after, ?_⟩
  rw [handleReset, if_pos configured, rounds, List.foldlM_cons, exited]
  rfl

/-- A RESET without one changes nothing. -/
theorem handleReset_idle {n : Nat} (idle : w.epIntEnabled = false) :
    handleReset os n w = .ok w := by
  rw [handleReset, idle]
  rfl

end Reset

/-! ## Runs -/

section Runs

variable {n : Nat} {w : LegacyWorld K}

/-- An event other than RESET ends in no exit of `usb_raw_ep_disable`. -/
theorem ep0Iteration_ends (lawful : LawfulHandles os enabled) (idle : Idle enabled w)
    {fetched : Fetched} (other : fetched.event.typ ≠ usbRawEventReset) :
    Ends NotDisabling (Idle enabled) (ep0Iteration os n fetched w) := by
  rw [ep0Iteration, if_neg other]
  exact Ends.ite (handleConnect_ends idle _) (Ends.ite (handleControl_ends lawful idle _ _) idle)

/-- A RESET is an event of its own. -/
theorem ep0Iteration_reset {fetched : Fetched} (reset : fetched.event.typ = usbRawEventReset) :
    ep0Iteration os n fetched w = handleReset os n w := by
  have notConnect : fetched.event.typ ≠ usbRawEventConnect := by
    rw [reset]
    decide
  rw [ep0Iteration, if_neg notConnect, if_pos reset]

/-- Handling an event leaves an idle world or a configuration. -/
theorem ep0Iteration_idle (lawful : LawfulHandles os enabled) (nonempty : 1 ≤ n)
    (idle : Idle enabled w) (fetched : Fetched) :
    Ends (fun _ => True) (Idle enabled) (ep0Iteration os n fetched w) := by
  by_cases reset : fetched.event.typ = usbRawEventReset
  · rw [ep0Iteration_reset reset]
    cases configured : w.epIntEnabled with
    | false =>
        rw [handleReset_idle configured]
        exact idle
    | true =>
        obtain ⟨after, exited⟩ := handleReset_enabled lawful nonempty configured
        rw [exited]
        exact trivial
  · exact Ends.weaken (ep0Iteration_ends lawful idle reset) (fun _ _ => trivial) fun _ => id

/-- An event is handled cleanly exactly when it is no RESET under a configuration. -/
theorem resetsCleanly_ep0Iteration_iff (lawful : LawfulHandles os enabled) (nonempty : 1 ≤ n)
    (idle : Idle enabled w) (fetched : Fetched) :
    ResetsCleanly enabled fetched (ep0Iteration os n fetched w) ↔
      (fetched.event.typ = usbRawEventReset → w.epIntEnabled = false) := by
  by_cases reset : fetched.event.typ = usbRawEventReset
  · rw [ep0Iteration_reset reset]
    cases configured : w.epIntEnabled with
    | false =>
        rw [handleReset_idle configured]
        exact ⟨fun _ _ => rfl, fun _ _ => ⟨idle configured, configured⟩⟩
    | true =>
        obtain ⟨after, exited⟩ := handleReset_enabled lawful nonempty configured
        rw [exited]
        constructor
        · intro clean
          exact absurd rfl clean
        · intro unconfigured
          cases unconfigured reset
  · constructor
    · intro _ fetchedReset
      exact absurd fetchedReset reset
    · intro _
      exact Ends.weaken (ep0Iteration_ends lawful idle reset) (fun _ => id)
        fun _ _ fetchedReset => absurd fetchedReset reset

/-- From a kernel without enabled endpoints, every event of a run is handled
cleanly exactly when no RESET is fetched while a configuration is enabled. -/
theorem resetsCleanly_iff (lawful : LawfulHandles os enabled) (nonempty : 1 ≤ n) {k : K}
    (disabled : enabled k = ∅) (events : List Fetched) :
    (legacy os n).EachResult (ResetsCleanly enabled) (.ok (.new k)) events ↔
      (legacy os n).EachStep NoResetWhileEnabled (.ok (.new k)) events := by
  apply Machine.eachResult_iff_eachStep _ (Ends (fun _ => True) (Idle enabled))
  · rintro (_ | w) fetched next idle stepped
    · cases stepped
    · cases stepped
      exact ep0Iteration_idle lawful nonempty idle fetched
  · rintro (_ | w) fetched next idle stepped
    · cases stepped
    · cases stepped
      exact resetsCleanly_ep0Iteration_iff lawful nonempty idle fetched
  · rintro (_ | w) fetched stepped
    · exact trivial
    · cases stepped
  · intro _
    exact disabled

end Runs

/-- An event fetched with an empty listing and a cleared stack. -/
def Fetched.of (event : UsbRawControlEvent) : Fetched where
  event
  epsInfo := .ok { eps := [], bounded := Nat.zero_le _ }
  stack := Vector.replicate 16384 0

/-- A RESET before the first configuration is handled cleanly. -/
theorem resetsCleanly_iff_unconfigured :
    (legacy Os.lowestHandle 1).EachResult (ResetsCleanly id) (.ok (.new ∅))
      [.of .reset, .of (.setConfiguration 1)] := by
  apply (resetsCleanly_iff lawfulHandles_lowestHandle (Nat.le_refl 1) rfl _).mpr
  have reset : (legacy Os.lowestHandle 1).step (.ok (.new ∅)) (.of .reset) =
      some (.ok (.new ∅)) := rfl
  rw [Machine.eachStep_cons _ reset]
  refine ⟨fun _ => rfl, ?_⟩
  obtain ⟨w, configured⟩ : ∃ w, (legacy Os.lowestHandle 1).step (.ok (.new ∅))
      (.of (.setConfiguration 1)) = some (.ok w) := ⟨_, rfl⟩
  rw [Machine.eachStep_cons _ configured]
  refine ⟨fun notReset => absurd notReset (by decide), ?_⟩
  exact Machine.eachStep_nil _

/-- With one interface the endpoints get the handles 0 and 1, and a RESET
disables 1 twice. -/
theorem not_resetsCleanly_configured :
    ¬(legacy Os.lowestHandle 1).EachResult (ResetsCleanly id) (.ok (.new ∅))
      [.of (.setConfiguration 1), .of .reset] := by
  intro clean
  obtain ⟨after, exited⟩ : ∃ after, (legacy Os.lowestHandle 1).run (.ok (.new ∅))
      [.of (.setConfiguration 1), .of .reset] =
        some (.error (.exit .usbRawEpDisable, after)) := ⟨_, rfl⟩
  exact clean [.of (.setConfiguration 1)] (.of .reset) _ (List.prefix_refl _) exited rfl

end X360Gadget.Legacy
