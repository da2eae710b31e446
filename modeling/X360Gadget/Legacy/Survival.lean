import X360Gadget.Kernel.Table
import X360Gadget.Legacy.Confinement

/-!
# How long the C gadget lives

On a kernel that hands out its endpoints in order, the endpoints that are enabled
are those of every SET_CONFIGURATION so far, one after the other: nothing ever
disables one, since a RESET ends the process as soon as there is something to
disable. `lifetime` counts the configurations and nothing else, and the process
follows it exactly, so that one can tell from the events alone whether it lives.
-/

namespace X360Gadget.Legacy

open X360Gadget.Kernel X360Gadget.Std
open X360Gadget.Transport (IsSetConfiguration)

variable {K : Type} {os : Os K} {capacity n : Nat} {array : K → EndpointArray}

/-! ## The life of the process -/

/-- The two endpoints of interface `i`, in the order of their EP_ENABLE calls. -/
def interfaceEndpoints (i : Nat) : List UsbEndpointDescriptor := [(getIfX i).epIn, (getIfX i).epOut]

/-- What one SET_CONFIGURATION enables. -/
def configuration (n : Nat) : List UsbEndpointDescriptor :=
  (List.range n).flatMap interfaceEndpoints

/-- What so many of them enable. -/
def configurations (n count : Nat) : List UsbEndpointDescriptor :=
  (List.replicate count (configuration n)).flatten

/-- The event asks for a configuration. -/
def Fetched.Configures (fetched : Fetched) : Prop :=
  fetched.event.typ = usbRawEventControl ∧ IsSetConfiguration fetched.event.ctrl

instance : DecidablePred Fetched.Configures :=
  fun _ => inferInstanceAs (Decidable (_ ∧ _))

/-- EPS_INFO answers and lists fewer endpoints than there are endpoint numbers. -/
def Surveyed : Except Errno UsbRawEpsInfo → Prop
  | .ok info => info.eps.length ≤ 15
  | .error _ => False

instance : DecidablePred Surveyed
  | .ok info => inferInstanceAs (Decidable (info.eps.length ≤ 15))
  | .error _ => .isFalse id

/-- `ep0_request` knows the request. -/
def Known (ctrl : UsbCtrlrequest) : Prop :=
  let typeBits := ctrl.bRequestType &&& usbTypeMask
  (typeBits = usbTypeStandard ∧ (ctrl.bRequest = usbReqGetDescriptor ∨
      ctrl.bRequest = usbReqSetConfiguration ∨ ctrl.bRequest = usbReqGetInterface)) ∨
    typeBits = usbTypeVendor

instance : DecidablePred Known := fun _ => inferInstanceAs (Decidable (_ ∨ _))

/-- The event is none that ends the process whenever it comes. -/
def Fetched.Harmless (fetched : Fetched) : Prop :=
  (fetched.event.typ = usbRawEventConnect → Surveyed fetched.epsInfo) ∧
    (fetched.event.typ = usbRawEventControl → Known fetched.event.ctrl)

instance : DecidablePred Fetched.Harmless := fun _ => inferInstanceAs (Decidable (_ ∧ _))

/-- The number of configurations is all there is to the life of the process. -/
def lifetime (n capacity : Nat) : Machine Nat Fetched where
  step count fetched :=
    if ¬fetched.Harmless then none
    else if fetched.event.typ = usbRawEventReset then if count = 0 then some 0 else none
    else if fetched.Configures then
      if (count + 1) * (2 * n) ≤ capacity then some (count + 1) else none
    else some count

/-! ## Enabling a configuration -/

/-- A configuration enables two endpoints for each interface. -/
theorem length_configuration (n : Nat) : (configuration n).length = 2 * n := by
  simp [configuration, interfaceEndpoints, List.length_flatMap, Nat.mul_comm]

/-- A number of configurations enable that many times the endpoints of one. -/
theorem length_configurations (n count : Nat) :
    (configurations n count).length = count * (2 * n) := by
  simp [configurations, length_configuration]

/-- One more configuration enables the endpoints of one after the others. -/
theorem configurations_succ (n count : Nat) :
    configurations n (count + 1) = configurations n count ++ configuration n := by
  simp [configurations, List.replicate_succ']

section Enable

/-- `added` is enabled behind `descs` if there is room, and the process ends if not. -/
def Grows {Result : Type} (capacity : Nat) (array : Result → EndpointArray)
    (descs added : List UsbEndpointDescriptor) (result : Handler K Result) : Prop :=
  if descs.length + added.length ≤ capacity then
    ∃ returned, result = .ok returned ∧ array returned = arrayOf (descs ++ added)
  else
    ∃ stop, result = .error stop

/-- Rule of sequence. -/
theorem Grows.bind {Part Result : Type} {middle : Part → EndpointArray}
    {final : Result → EndpointArray} {descs first second : List UsbEndpointDescriptor}
    {part : Handler K Part} {rest : Part → Handler K Result}
    (grows : Grows capacity middle descs first part)
    (later : ∀ returned, (descs ++ first).length ≤ capacity →
      middle returned = arrayOf (descs ++ first) →
        Grows capacity final (descs ++ first) second (rest returned)) :
    Grows capacity final descs (first ++ second) (part >>= rest) := by
  unfold Grows at grows
  split at grows
  · next room =>
    obtain ⟨returned, rfl, holds⟩ := grows
    have continued := later returned (by rw [List.length_append]; exact room) holds
    unfold Grows at continued ⊢
    rw [List.length_append, Nat.add_assoc, List.append_assoc] at continued
    rw [List.length_append]
    exact continued
  · next full =>
      obtain ⟨stop, rfl⟩ := grows
      have stillFull : ¬descs.length + (first ++ second).length ≤ capacity := by
        rw [List.length_append]
        omega
      rw [Grows, if_neg stillFull]
      exact ⟨stop, rfl⟩

/-- A call of `usb_raw_ep_enable` takes the next place. -/
theorem usbRawEpEnable_grows (ordered : Ordered os capacity array) {w : LegacyWorld K}
    {descs : List UsbEndpointDescriptor} (holds : array w.kernel = arrayOf descs)
    (desc : UsbEndpointDescriptor) :
    Grows capacity (fun answered => array answered.2.kernel) descs [desc]
      (usbRawEpEnable os w desc) := by
  have place := firstDisabled_arrayOf descs capacity
  rw [← holds] at place
  unfold Grows
  split
  · next room =>
      have isRoom : descs.length < capacity := room
      rw [if_pos isRoom] at place
      obtain ⟨result, after⟩ := ordered.enable_some desc place
      refine ⟨(Int32.ofNat descs.length, w.after os (.epEnable desc)), ?_, ?_⟩
      · rw [usbRawEpEnable, ioctl, result]
      · rw [← update_arrayOf, ← holds]
        exact after
  · next full =>
      have noRoom : ¬descs.length < capacity := full
      rw [if_neg noRoom] at place
      obtain ⟨refused, -⟩ := ordered.enable_none desc place
      rw [usbRawEpEnable, ioctl]
      cases answered : (os.serve w.kernel (.epEnable desc)).1.result with
      | ok rv =>
          rw [answered] at refused
          cases refused
      | error errno => exact ⟨_, rfl⟩

/-- Returning enables nothing. -/
theorem Grows.ok {Result : Type} {final : Result → EndpointArray} {result : Result}
    {descs : List UsbEndpointDescriptor} (bounded : descs.length ≤ capacity)
    (holds : final result = arrayOf descs) :
    Grows capacity final descs [] (.ok result : Handler K Result) := by
  have room : descs.length + ([] : List UsbEndpointDescriptor).length ≤ capacity := bounded
  rw [Grows, if_pos room, List.append_nil]
  exact ⟨result, rfl, holds⟩

/-- Enabling an interface appends its endpoints, or ends where the table is full. -/
theorem enableInterface_grows (ordered : Ordered os capacity array) {w : LegacyWorld K}
    {descs : List UsbEndpointDescriptor} (holds : array w.kernel = arrayOf descs) (i : Nat) :
    Grows capacity (fun after => array after.kernel) descs (interfaceEndpoints i)
      (enableInterface os w i) := by
  refine Grows.bind (usbRawEpEnable_grows ordered holds (getIfX i).epIn) ?_
  rintro ⟨epIntIn, w⟩ - holds
  refine Grows.bind (usbRawEpEnable_grows ordered holds (getIfX i).epOut) ?_
  rintro ⟨epIntOut, w⟩ bounded holds
  exact Grows.ok bounded holds

/-- Enabling a list of interfaces appends their endpoints, or ends where the table
is full. -/
theorem foldlM_enableInterface_grows (ordered : Ordered os capacity array) {w : LegacyWorld K}
    {descs : List UsbEndpointDescriptor} (bounded : descs.length ≤ capacity)
    (holds : array w.kernel = arrayOf descs) (slots : List Nat) :
    Grows capacity (fun after => array after.kernel) descs (slots.flatMap interfaceEndpoints)
      (slots.foldlM (enableInterface os) w) := by
  induction slots generalizing w descs with
  | nil => exact Grows.ok bounded holds
  | cons i rest ih =>
      rw [List.foldlM_cons, List.flatMap_cons]
      refine Grows.bind (enableInterface_grows ordered holds i) ?_
      intro w bounded holds
      exact ih bounded holds

end Enable

/-! ## One event -/

/-- The kernel holds the endpoints of so many configurations, and the program knows
whether there is one. -/
structure Tracks (n capacity : Nat) (array : K → EndpointArray) (count : Nat)
    (w : LegacyWorld K) : Prop where
  fits : count * (2 * n) ≤ capacity
  endpoints : array w.kernel = arrayOf (configurations n count)
  enabled : w.epIntEnabled = decide (count ≠ 0)

/-- The program moves on to that many configurations, or ends where there are none. -/
def Goes (n capacity : Nat) (array : K → EndpointArray) :
    Option Nat → Handler K (LegacyWorld K) → Prop
  | some count, result => ∃ after, result = .ok after ∧ Tracks n capacity array count after
  | none, result => ∃ stop, result = .error stop

/-- What follows a step that was taken only has to keep the count. -/
theorem Goes.bind {next : Option Nat} {first : Handler K (LegacyWorld K)}
    {rest : LegacyWorld K → Handler K (LegacyWorld K)} (goes : Goes n capacity array next first)
    (keeps : ∀ {count w}, Tracks n capacity array count w →
      Goes n capacity array (some count) (rest w)) :
    Goes n capacity array next (first >>= rest) := by
  cases next with
  | none =>
      obtain ⟨stop, rfl⟩ := goes
      exact ⟨stop, rfl⟩
  | some count =>
      obtain ⟨middle, rfl, tracks⟩ := goes
      exact keeps tracks

section Event

variable {count : Nat} {w : LegacyWorld K}

/-- A call that succeeds and concerns no endpoint changes neither. -/
theorem ioctl_tracks (ordered : Ordered os capacity array) (obliging : Obliging os)
    (tracks : Tracks n capacity array count w) (wrapper : Wrapper) (call : Syscall)
    (endpointless : call.endpointless = true) :
    ∃ rv after, ioctl os w wrapper call = .ok (rv, after) ∧
      Tracks n capacity array count after := by
  have succeeds : (os.serve w.kernel call).1.result.toOption.isSome := obliging endpointless
  rw [ioctl]
  cases answered : (os.serve w.kernel call).1.result with
  | error errno =>
      rw [answered] at succeeds
      cases succeeds
  | ok rv =>
      refine ⟨rv, w.after os call, rfl, tracks.fits, ?_, tracks.enabled⟩
      have unchanged : array (os.serve w.kernel call).2 = array w.kernel := by
        apply ordered.other
        · rintro desc rfl
          cases endpointless
        · rintro ep rfl
          cases endpointless
      exact unchanged.trans tracks.endpoints

/-- The answer to a request concerns endpoint zero. -/
theorem endpointless_of_answerTransfer {call : Syscall} {ctrl : UsbCtrlrequest}
    {bytes : List UInt8} (carries : call.transfer = answerTransfer ctrl bytes) :
    call.endpointless = true := by
  unfold answerTransfer at carries
  dsimp only at carries
  split at carries
  · cases call <;> first | rfl | cases carries
  · cases call <;> first | rfl | cases carries

/-- The answer to a request is given and enables nothing. -/
theorem reply_goes (ordered : Ordered os capacity array) (obliging : Obliging os)
    (tracks : Tracks n capacity array count w) {ctrl : UsbCtrlrequest} {call : Syscall}
    {bytes : List UInt8} (carries : call.transfer = answerTransfer ctrl bytes) :
    Goes n capacity array (some count) (reply os ctrl call w) := by
  obtain ⟨rv, after, answered, holds⟩ := ioctl_tracks ordered obliging tracks
    (answerWrapper ctrl) call (endpointless_of_answerTransfer carries)
  exact ⟨after, by rw [reply, answered]; rfl, holds⟩

/-- SET_CONFIGURATION adds one configuration, or ends the process for want of room. -/
theorem setConfiguration_goes (ordered : Ordered os capacity array) (obliging : Obliging os)
    (tracks : Tracks n capacity array count w) :
    Goes n capacity array (if (count + 1) * (2 * n) ≤ capacity then some (count + 1) else none)
      (setConfiguration os n w) := by
  have bounded : (configurations n count).length ≤ capacity := by
    rw [length_configurations]
    exact tracks.fits
  have grows := foldlM_enableInterface_grows ordered bounded tracks.endpoints (List.range n)
  have total : (configurations n count).length +
      ((List.range n).flatMap interfaceEndpoints).length = (count + 1) * (2 * n) := by
    rw [length_configurations, ← configuration, length_configuration]
    exact (Nat.succ_mul count (2 * n)).symm
  unfold Grows at grows
  rw [total, ← configuration, ← configurations_succ] at grows
  split at grows
  · next room =>
      obtain ⟨middle, enabled, holds⟩ := grows
      rw [if_pos room]
      have configured : Tracks n capacity array (count + 1) { middle with epIntEnabled := true } :=
        ⟨room, holds, rfl⟩
      obtain ⟨drawn, powered, drew, tracksPowered⟩ := ioctl_tracks ordered obliging configured
        .usbRawVbusDraw (.vbusDraw usbConfig.bMaxPower.toUInt32) rfl
      obtain ⟨done, after, finished, tracksAfter⟩ := ioctl_tracks ordered obliging tracksPowered
        .usbRawConfigure .configure rfl
      refine ⟨after, ?_, tracksAfter⟩
      rw [setConfiguration, enabled]
      change (usbRawVbusDraw os { middle with epIntEnabled := true } _ >>= _) = _
      rw [usbRawVbusDraw, drew]
      change (usbRawConfigure os powered >>= _) = _
      rw [usbRawConfigure, finished]
      rfl
  · next full =>
      obtain ⟨stop, ended⟩ := grows
      rw [if_neg full, setConfiguration, ended]
      exact ⟨stop, rfl⟩

/-- The requests that are known are those that have an answer. -/
theorem requestBytes_isSome_iff (ctrl : UsbCtrlrequest) :
    (requestBytes n ctrl).isSome ↔ Known ctrl := by
  unfold requestBytes Known
  dsimp only
  by_cases standard : ctrl.bRequestType &&& usbTypeMask = usbTypeStandard
  · have notVendor : ctrl.bRequestType &&& usbTypeMask ≠ usbTypeVendor := by
      rw [standard]
      decide
    rw [if_pos standard, and_iff_right standard, or_iff_left notVendor]
    by_cases get : ctrl.bRequest = usbReqGetDescriptor
    · rw [if_pos get]
      exact iff_of_true rfl (.inl get)
    by_cases set : ctrl.bRequest = usbReqSetConfiguration
    · rw [if_neg get, if_pos set]
      exact iff_of_true rfl (.inr (.inl set))
    by_cases interface : ctrl.bRequest = usbReqGetInterface
    · rw [if_neg get, if_neg set, if_pos interface]
      exact iff_of_true rfl (.inr (.inr interface))
    · rw [if_neg get, if_neg set, if_neg interface]
      refine iff_of_false Bool.noConfusion ?_
      rintro (is | is | is)
      · exact get is
      · exact set is
      · exact interface is
  · rw [if_neg standard, or_iff_right fun known => standard known.1]
    by_cases vendor : ctrl.bRequestType &&& usbTypeMask = usbTypeVendor
    · rw [if_pos vendor]
      exact iff_of_true rfl vendor
    · rw [if_neg vendor]
      exact iff_of_false Bool.noConfusion vendor

/-- A control event ends the process when its request is not known, or asks for a
configuration that does not fit. -/
theorem handleControl_goes (ordered : Ordered os capacity array) (obliging : Obliging os)
    (few : n ≤ 4) (tracks : Tracks n capacity array count w) (ctrl : UsbCtrlrequest)
    (stack : Vector UInt8 16384) :
    Goes n capacity array
      (if ¬Known ctrl then none
        else if IsSetConfiguration ctrl then
          if (count + 1) * (2 * n) ≤ capacity then some (count + 1) else none
        else some count)
      (handleControl os n ctrl stack w) := by
  have isSome : (requestBytes n ctrl).isSome ↔ Known ctrl := requestBytes_isSome_iff ctrl
  cases prepared : requestBytes n ctrl with
  | none =>
      have unknown : ¬Known ctrl := by
        rw [← isSome, prepared]
        exact Bool.noConfusion
      rw [if_pos unknown]
      exact ⟨_, handleControl_of_unknown os stack w prepared⟩
  | some bytes =>
      have known : Known ctrl := by
        rw [← isSome, prepared]
        rfl
      rw [if_neg (not_not.mpr known)]
      split
      · next set =>
          obtain ⟨call, carries, handled⟩ :=
            handleControl_of_setConfiguration os (n := n) stack w set
          rw [handled]
          refine Goes.bind (setConfiguration_goes ordered obliging tracks) ?_
          intro count w tracks
          exact reply_goes ordered obliging tracks carries
      · next other =>
          obtain ⟨call, carries, handled⟩ :=
            handleControl_of_known os stack w (fits_of_few few) prepared other
          rw [handled]
          exact reply_goes ordered obliging tracks carries

/-- The survey of a CONNECT is all that its event can fail at. -/
theorem handleConnect_goes (tracks : Tracks n capacity array count w)
    (epsInfo : Except Errno UsbRawEpsInfo) :
    Goes n capacity array (if Surveyed epsInfo then some count else none)
      (handleConnect epsInfo w) := by
  cases epsInfo with
  | error errno =>
      rw [if_neg (c := Surveyed (.error errno)) id]
      exact ⟨_, rfl⟩
  | ok info =>
      split
      · next few =>
          have few : info.eps.length ≤ 15 := few
          have surveyed : processEpsInfo info w.addr = .ok w.addr :=
            surveyLoop_ok (by omega) w.addr
          exact ⟨w, by rw [handleConnect, surveyed], tracks⟩
      · next many =>
          have many : ¬info.eps.length ≤ 15 := many
          have stops := surveyLoop_stops (Nat.zero_le 15) (by omega : 15 < 0 + info.eps.length)
            w.addr
          cases surveyed : processEpsInfo info w.addr with
          | ok addr =>
              rw [processEpsInfo] at surveyed
              rw [surveyed] at stops
              exact stops.elim
          | error assertion => exact ⟨_, by rw [handleConnect, surveyed]⟩

/-- A RESET has nothing to do or ends the process. -/
theorem handleReset_goes (ordered : Ordered os capacity array) (nonempty : 1 ≤ n)
    (tracks : Tracks n capacity array count w) :
    Goes n capacity array (if count = 0 then some 0 else none) (handleReset os n w) := by
  split
  · next unconfigured =>
      subst unconfigured
      exact ⟨w, handleReset_idle tracks.enabled, tracks⟩
  · next configured =>
      have enabled : w.epIntEnabled = true := by
        rw [tracks.enabled]
        exact decide_eq_true configured
      obtain ⟨after, exited⟩ := handleReset_enabled ordered.lawfulHandles nonempty enabled
      exact ⟨_, exited⟩

/-- What `lifetime` does with each kind of event. -/
theorem lifetime_step (count : Nat) (fetched : Fetched) :
    (lifetime n capacity).step count fetched =
      if fetched.event.typ = usbRawEventConnect then
        if Surveyed fetched.epsInfo then some count else none
      else if fetched.event.typ = usbRawEventReset then if count = 0 then some 0 else none
      else if fetched.event.typ = usbRawEventControl then
        if ¬Known fetched.event.ctrl then none
        else if IsSetConfiguration fetched.event.ctrl then
          if (count + 1) * (2 * n) ≤ capacity then some (count + 1) else none
        else some count
      else some count := by
  have apart : usbRawEventConnect ≠ usbRawEventReset ∧ usbRawEventConnect ≠ usbRawEventControl ∧
      usbRawEventReset ≠ usbRawEventControl := by decide
  simp only [lifetime, Fetched.Harmless, Fetched.Configures]
  by_cases connect : fetched.event.typ = usbRawEventConnect
  · simp [connect, apart.1, apart.2.1]
  by_cases reset : fetched.event.typ = usbRawEventReset
  · simp [reset, apart.1.symm, apart.2.2]
  by_cases control : fetched.event.typ = usbRawEventControl
  · simp [control, apart.2.1.symm, apart.2.2.symm]
  · simp [connect, reset, control]

/-- The process does with an event what `lifetime` does with it. -/
theorem ep0Iteration_goes (ordered : Ordered os capacity array) (obliging : Obliging os)
    (nonempty : 1 ≤ n) (few : n ≤ 4) (tracks : Tracks n capacity array count w)
    (fetched : Fetched) : Goes n capacity array ((lifetime n capacity).step count fetched)
      (ep0Iteration os n fetched w) := by
  rw [lifetime_step, ep0Iteration]
  by_cases connect : fetched.event.typ = usbRawEventConnect
  · rw [if_pos connect, if_pos connect]
    exact handleConnect_goes tracks fetched.epsInfo
  rw [if_neg connect, if_neg connect]
  by_cases reset : fetched.event.typ = usbRawEventReset
  · rw [if_pos reset, if_pos reset]
    exact handleReset_goes ordered nonempty tracks
  rw [if_neg reset, if_neg reset]
  by_cases control : fetched.event.typ = usbRawEventControl
  · rw [if_pos control, if_pos control]
    exact handleControl_goes ordered obliging few tracks fetched.event.ctrl fetched.stack
  · rw [if_neg control, if_neg control]
    exact ⟨w, rfl, tracks⟩

end Event

/-! ## Runs -/

/-- The events so far ask for this many configurations. -/
def asked (events : List Fetched) : Nat := events.countP (·.Configures)

/-- A run of `lifetime` in terms of its events. -/
structure Lives (n capacity : Nat) (events : List Fetched) : Prop where
  harmless : ∀ fetched ∈ events, fetched.Harmless
  fits : asked events * (2 * n) ≤ capacity
  /-- No RESET comes after a SET_CONFIGURATION. -/
  noReset : ∀ earlier reset, earlier ++ [reset] <+: events →
    reset.event.typ = usbRawEventReset → ∀ fetched ∈ earlier, ¬fetched.Configures

/-- The program lives while nothing happens. -/
theorem lives_nil (n capacity : Nat) : Lives n capacity [] where
  harmless := fun _ member => absurd member List.not_mem_nil
  fits := by simp [asked]
  noReset := by
    intro earlier reset isPrefix
    simp at isPrefix

/-- One more event asks for a configuration where it configures. -/
theorem asked_concat (events : List Fetched) (fetched : Fetched) :
    asked (events ++ [fetched]) = asked events + if fetched.Configures then 1 else 0 := by
  simp [asked, List.countP_append, List.countP_singleton]

/-- What it takes to go on by one event. -/
def Fetched.Tolerated (n capacity count : Nat) (fetched : Fetched) : Prop :=
  fetched.Harmless ∧ (fetched.event.typ = usbRawEventReset → count = 0) ∧
    (fetched.Configures → (count + 1) * (2 * n) ≤ capacity)

/-- The lifetime goes on exactly where the event is tolerated. -/
theorem lifetime_eq_some_iff {count next : Nat} {fetched : Fetched} :
    (lifetime n capacity).step count fetched = some next ↔
      fetched.Tolerated n capacity count ∧
        next = count + if fetched.Configures then 1 else 0 := by
  have apart : fetched.Configures → fetched.event.typ ≠ usbRawEventReset := by
    rintro ⟨control, -⟩ reset
    rw [control] at reset
    exact absurd reset (by decide)
  simp only [lifetime, Fetched.Tolerated]
  by_cases harmless : fetched.Harmless
  · by_cases reset : fetched.event.typ = usbRawEventReset
    · have notConfigures : ¬fetched.Configures := fun configures => apart configures reset
      by_cases unconfigured : count = 0
      · simp [harmless, reset, notConfigures, unconfigured, eq_comm]
      · simp [harmless, reset, unconfigured]
    · by_cases configures : fetched.Configures
      · simp [harmless, reset, configures, eq_comm]
      · simp [harmless, reset, configures, eq_comm]
  · simp [harmless]

/-- Events live on by one exactly when it is tolerated after them. -/
theorem lives_concat_iff {events : List Fetched} {fetched : Fetched} :
    Lives n capacity (events ++ [fetched]) ↔
      Lives n capacity events ∧ fetched.Tolerated n capacity (asked events) := by
  have fewer : asked events * (2 * n) ≤ asked (events ++ [fetched]) * (2 * n) := by
    rw [asked_concat]
    exact Nat.mul_le_mul_right _ (Nat.le_add_right _ _)
  constructor
  · intro lives
    refine ⟨⟨?_, fewer.trans lives.fits, ?_⟩, ?_, ?_, ?_⟩
    · intro other member
      exact lives.harmless other (List.mem_append_left _ member)
    · intro earlier reset isPrefix
      exact lives.noReset earlier reset (isPrefix.trans (List.prefix_append _ _))
    · exact lives.harmless fetched (by simp)
    · intro reset
      refine List.countP_eq_zero.mpr ?_
      intro other member
      have notConfigures := lives.noReset events fetched (List.prefix_refl _) reset other member
      simpa using notConfigures
    · intro configures
      have fits := lives.fits
      rw [asked_concat, if_pos configures] at fits
      exact fits
  · rintro ⟨lives, harmless, unconfigured, room⟩
    refine ⟨?_, ?_, ?_⟩
    · intro other member
      rcases List.mem_append.mp member with earlier | last
      · exact lives.harmless other earlier
      · rw [List.mem_singleton.mp last]
        exact harmless
    · rw [asked_concat]
      split
      · next configures => exact room configures
      · exact lives.fits
    · intro earlier reset isPrefix isReset other member
      rcases List.prefix_concat_iff.mp isPrefix with whole | within
      · obtain ⟨rfl, same⟩ := List.append_inj' whole rfl
        cases same
        have none := List.countP_eq_zero.mp (unconfigured isReset) other member
        simpa using none
      · exact lives.noReset earlier reset within isReset other member

/-- The lifetime goes on as long as the events live. -/
theorem lifetime_run_eq_some_iff {events : List Fetched} {count : Nat} :
    (lifetime n capacity).run 0 events = some count ↔
      Lives n capacity events ∧ count = asked events := by
  induction events using List.reverseRecOn generalizing count with
  | nil =>
      rw [Machine.run_nil, Option.some.injEq, and_iff_right (lives_nil n capacity)]
      exact eq_comm
  | append_singleton events fetched ih =>
      rw [Machine.run_concat_eq_some, lives_concat_iff, asked_concat]
      constructor
      · rintro ⟨middle, before, stepped⟩
        obtain ⟨lives, rfl⟩ := ih.mp before
        obtain ⟨tolerated, rfl⟩ := lifetime_eq_some_iff.mp stepped
        exact ⟨⟨lives, tolerated⟩, rfl⟩
      · rintro ⟨⟨lives, tolerated⟩, rfl⟩
        exact ⟨asked events, ih.mpr ⟨lives, rfl⟩, lifetime_eq_some_iff.mpr ⟨tolerated, rfl⟩⟩

/-- No endpoint of the array is enabled. -/
def Disabled (array : EndpointArray) : Prop := array = arrayOf []

/-- A program that starts has an empty table. -/
theorem tracks_new {k : K} (disabled : Disabled (array k)) :
    Tracks n capacity array 0 (.new k) where
  fits := by simp
  endpoints := disabled
  enabled := rfl

/-- The process runs, and the kernel holds so many configurations. -/
def Alive (n capacity : Nat) (array : K → EndpointArray) (count : Nat)
    (state : Handler K (LegacyWorld K)) : Prop :=
  ∃ w, state = .ok w ∧ Tracks n capacity array count w

/-- The program has stopped. -/
def Ended (state : Handler K (LegacyWorld K)) : Prop := ∃ stop, state = .error stop

section Runs

variable {k : K} {events : List Fetched}

/-- The program survives a step that its lifetime survives. -/
theorem legacy_follows (ordered : Ordered os capacity array) (obliging : Obliging os)
    (nonempty : 1 ≤ n) (few : n ≤ 4) {count next : Nat} {state : Handler K (LegacyWorld K)}
    {fetched : Fetched} (alive : Alive n capacity array count state)
    (stepped : (lifetime n capacity).step count fetched = some next) :
    ∃ after, (legacy os n).step state fetched = some after ∧
      Alive n capacity array next after := by
  obtain ⟨w, rfl, tracks⟩ := alive
  have goes := ep0Iteration_goes ordered obliging nonempty few tracks fetched
  rw [stepped] at goes
  obtain ⟨after, handled, tracksAfter⟩ := goes
  exact ⟨.ok after, congrArg some handled, after, rfl, tracksAfter⟩

/-- The program ends at a step that its lifetime does not survive. -/
theorem legacy_ends (ordered : Ordered os capacity array) (obliging : Obliging os)
    (nonempty : 1 ≤ n) (few : n ≤ 4) {count : Nat} {state after : Handler K (LegacyWorld K)}
    {fetched : Fetched} (alive : Alive n capacity array count state)
    (beyond : (lifetime n capacity).step count fetched = none)
    (stepped : (legacy os n).step state fetched = some after) : Ended after := by
  obtain ⟨w, rfl, tracks⟩ := alive
  have goes := ep0Iteration_goes ordered obliging nonempty few tracks fetched
  rw [beyond] at goes
  obtain ⟨stop, handled⟩ := goes
  obtain rfl : ep0Iteration os n fetched w = after := Option.some.inj stepped
  exact ⟨stop, handled⟩

/-- While the events live, the kernel holds the endpoints of every configuration they
asked for, in order. -/
theorem tracks_of_lives (ordered : Ordered os capacity array) (obliging : Obliging os)
    (nonempty : 1 ≤ n) (few : n ≤ 4) (disabled : Disabled (array k))
    (lives : Lives n capacity events) : ∃ w,
      (legacy os n).run (.ok (.new k)) events = some (.ok w) ∧
        Tracks n capacity array (asked events) w := by
  obtain ⟨state, completed, w, rfl, tracks⟩ := (legacy os n).run_follows
    (legacy_follows ordered obliging nonempty few) ⟨.new k, rfl, tracks_new disabled⟩
    (lifetime_run_eq_some_iff.mpr ⟨lives, rfl⟩)
  exact ⟨w, completed, tracks⟩

/-- The process lives through its events exactly when the configurations fit, no
RESET follows one, and no event is harmful in itself. -/
theorem survives_iff (ordered : Ordered os capacity array) (obliging : Obliging os)
    (nonempty : 1 ≤ n) (few : n ≤ 4) (disabled : Disabled (array k)) (events : List Fetched) :
    (∃ w, (legacy os n).run (.ok (.new k)) events = some (.ok w)) ↔ Lives n capacity events := by
  constructor
  · rintro ⟨w, completed⟩
    have running : ∀ {count state}, Alive n capacity array count state → ¬Ended state := by
      rintro count state ⟨w, rfl, -⟩ ⟨stop, same⟩
      cases same
    have stays : ∀ {state next : Handler K (LegacyWorld K)} {fetched}, Ended state →
        (legacy os n).step state fetched = some next → Ended next := by
      rintro state next fetched ⟨stop, rfl⟩ stepped
      cases stepped
    have goesOn := ((legacy os n).run_tracks Ended
      (legacy_follows ordered obliging nonempty few) (legacy_ends ordered obliging nonempty few)
      stays running ⟨.new k, rfl, tracks_new disabled⟩).mp
      ⟨.ok w, completed, fun ⟨_, same⟩ => by cases same⟩
    obtain ⟨count, ran⟩ := Option.isSome_iff_exists.mp goesOn
    exact (lifetime_run_eq_some_iff.mp ran).1
  · intro lives
    obtain ⟨w, completed, -⟩ := tracks_of_lives ordered obliging nonempty few disabled lives
    exact ⟨w, completed⟩

/-- A controller with eight endpoints has room for one configuration of four
interfaces, so the process survives it. -/
theorem survives_iff_eight : ∃ w, (legacy (Os.ordered 8) 4).run (.ok (.new (arrayOf [])))
    [.of (.setConfiguration 1)] = some (.ok w) := by
  refine (survives_iff (ordered_ordered (by decide)) (obliging_ordered 8) (by decide) (by decide)
    (rfl : Disabled (arrayOf [])) _).mpr ⟨?_, ?_, ?_⟩
  · intro fetched member
    rw [List.mem_singleton.mp member]
    decide
  · decide
  · intro earlier reset isPrefix isReset other member
    have short := isPrefix.length_le
    rw [List.length_append, List.length_singleton, List.length_singleton] at short
    obtain rfl := List.eq_nil_of_length_eq_zero (by omega : earlier.length = 0)
    cases member

end Runs

end X360Gadget.Legacy
