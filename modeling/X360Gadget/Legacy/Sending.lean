import X360Gadget.Legacy.Survival
import X360Gadget.Protocol.Codec

/-!
# The example of the C gadget

`send_to_ep` takes the handle of an interface's IN endpoint to be twice its number.
`program` interleaves the main loop of `gadget_example` with the events of the ep0
thread, and `example_of_run` says what this guess leads to: however the two threads
take turns, each thousand rounds of the loop send one report to every interface.
-/

namespace X360Gadget.Legacy

open X360Gadget.Kernel X360Gadget.Protocol X360Gadget.Std
open X360Gadget.Transport (IsSetConfiguration)

variable {K : Type} {os : Os K} {capacity n : Nat} {array : K → EndpointArray}

/-! ## Sending -/

/-- The transfer of `send_to_ep`: the data over what the stack held; the copy may leave
the buffer. -/
def interruptIo (ep : UInt16) (data : List UInt8) (stack : Vector UInt8 32) :
    Option UsbRawInterruptEpIo :=
  if fits : data.length ≤ 32 then
    some
      { inner := { ep, flags := 0, length := UInt32.ofNat data.length }
        data := ⟨data ++ stack.toList.drop data.length, by simp; omega⟩ }
  else
    none

/-- `send_to_ep` on the first bytes of `data`, as many as its length says. -/
def sendToEp (os : Os K) (n : Nat) (data : List UInt8) (stack : Vector UInt8 32)
    (w : LegacyWorld K) : Handler K (Bool × LegacyWorld K) :=
  if ¬w.epIntEnabled then .ok (false, w)
  else
    let epIntIn := UInt16.ofNat (n * 2)
    match interruptIo epIntIn data stack with
    | none => .error (.outOfBounds, w)
    | some io =>
        match (os.serve w.kernel (.epWrite io)).1.result with
        | .ok _ => .ok (true, w.after os (.epWrite io))
        | .error _ => .ok (false, w.after os (.epWrite io))

/-! ## The main loop -/

/-- The report in which the A button is held. -/
def aPacket : List UInt8 :=
  [0x00, 0x14, 0x00, 0x10, 0x00, 0x00, 0x00, 0x00, 0x00, 0x00,
    0x00, 0x00, 0x00, 0x00, 0x00, 0x00, 0x00, 0x00, 0x00, 0x00]

/-- The report of a controller that rests. -/
def blankPacket : List UInt8 :=
  [0x00, 0x14, 0x00, 0x00, 0x00, 0x00, 0x00, 0x00, 0x00, 0x00,
    0x00, 0x00, 0x00, 0x00, 0x00, 0x00, 0x00, 0x00, 0x00, 0x00]

/-- Where `gadget_example` stands. -/
inductive Loop where
  /-- `init_360_gadget` waits for `ep_int_enabled`. -/
  | awaiting
  | idle (timePassed : Nat) (aPressed : Bool)
  /-- In the loop over the interfaces, before the send to interface `i`. -/
  | sending (i : Nat) (aPressed : Bool)
deriving DecidableEq, Repr

/-- The process with its two threads. -/
structure Program (K : Type) where
  handler : Handler K (LegacyWorld K)
  loop : Loop

/-- A step of the EP0 thread or of the main thread. -/
inductive ProgramAction where
  /-- The ep0 thread handles an event. -/
  | ep0 (fetched : Fetched)
  /-- One look at `ep_int_enabled` while waiting for it. -/
  | poll
  /-- One round of the main loop, up to its sends. -/
  | tick
  /-- The next send, with what the stack holds there. -/
  | send (stack : Vector UInt8 32)

/-- The loop over the interfaces at number `i`. -/
def Loop.at (n i : Nat) (aPressed : Bool) : Loop :=
  if i < n then .sending i aPressed else .idle 0 (!aPressed)

/-- A round of the main loop. -/
def Loop.tick (n : Nat) (epIntEnabled : Bool) (timePassed : Nat) (aPressed : Bool) : Loop :=
  let timePassed := timePassed + 1
  if epIntEnabled ∧ timePassed ≥ 1000 then Loop.at n 0 aPressed else .idle timePassed aPressed

/-- One step of the program. -/
def Program.step (os : Os K) (n : Nat) (s : Program K) : ProgramAction → Option (Program K)
  | .ep0 fetched =>
      match s.handler with
      | .ok w => some { s with handler := ep0Iteration os n fetched w }
      | .error _ => none
  | .poll =>
      match s.handler, s.loop with
      | .ok w, .awaiting =>
          some { s with loop := if w.epIntEnabled then .idle 0 false else .awaiting }
      | _, _ => none
  | .tick =>
      match s.handler, s.loop with
      | .ok w, .idle timePassed aPressed =>
          some { s with loop := .tick n w.epIntEnabled timePassed aPressed }
      | _, _ => none
  | .send stack =>
      match s.handler, s.loop with
      | .ok w, .sending i aPressed =>
          let packet := if aPressed then blankPacket else aPacket
          match sendToEp os i packet stack w with
          | .ok (_, w) => some { handler := .ok w, loop := .at n (i + 1) aPressed }
          | .error stop => some { s with handler := .error stop }
      | _, _ => none

/-- `gadget_example` beside `ep0_loop`, with `n` interfaces. -/
def program (os : Os K) (n : Nat) : Machine (Program K) ProgramAction where
  step := Program.step os n

/-- After `pthread_create`. -/
def Program.new (k : K) : Program K where
  handler := .ok (.new k)
  loop := .awaiting

/-! ## The ep0 thread sends no reports -/

section Ep0

variable {Inv : K → Prop}

/-- The property of the kernel holds wherever the computation ends. -/
abbrev Leaves (Inv : K → Prop) : Handler K (LegacyWorld K) → Prop :=
  Ends (fun stop => Inv stop.2.kernel) fun w => Inv w.kernel

/-- The call is not for an interrupt endpoint. -/
def ofEp0 : Syscall → Bool
  | .epWrite _ | .spawnEpOut _ _ => false
  | _ => true

/-- The calls of the ep0 thread keep the property. -/
def Ep0Keeps (os : Os K) (Inv : K → Prop) : Prop :=
  ∀ {k call}, ofEp0 call → Inv k → Inv (os.serve k call).2

/-- A call of the ep0 thread keeps the property of the kernel. -/
theorem ioctl_leaves (keeps : Ep0Keeps os Inv) {w : LegacyWorld K} (holds : Inv w.kernel)
    (wrapper : Wrapper) (call : Syscall) (isEp0 : ofEp0 call = true) :
    Ends (fun stop => Inv stop.2.kernel) (fun answered => Inv answered.2.kernel)
      (ioctl os w wrapper call) := by
  have kept := keeps isEp0 holds
  rw [ioctl]
  cases (os.serve w.kernel call).1.result with
  | ok rv => exact kept
  | error errno => exact kept

/-- Enabling an interface keeps the property of the kernel. -/
theorem enableInterface_leaves (keeps : Ep0Keeps os Inv) {w : LegacyWorld K}
    (holds : Inv w.kernel) (i : Nat) : Leaves Inv (enableInterface os w i) :=
  Ends.bind (ioctl_leaves keeps holds _ _ rfl) fun _ holds =>
    Ends.bind (ioctl_leaves keeps holds _ _ rfl) fun _ holds => holds

/-- Disabling an interface keeps the property of the kernel. -/
theorem disableInterface_leaves (keeps : Ep0Keeps os Inv) {w : LegacyWorld K}
    (holds : Inv w.kernel) (i : Nat) : Leaves Inv (disableInterface os w i) :=
  Ends.bind (ioctl_leaves keeps holds _ _ rfl) fun _ holds =>
    Ends.bind (ioctl_leaves keeps holds _ _ rfl) fun _ holds => holds

/-- Enabling the interfaces keeps the property of the kernel. -/
theorem setConfiguration_leaves (keeps : Ep0Keeps os Inv) {w : LegacyWorld K}
    (holds : Inv w.kernel) : Leaves Inv (setConfiguration os n w) := by
  have looped : Leaves Inv ((List.range n).foldlM (enableInterface os) w) :=
    Ends.foldlM (fun _ i holds => enableInterface_leaves keeps holds i) holds
  refine Ends.bind looped ?_
  intro w holds
  have configured : Inv ({ w with epIntEnabled := true } : LegacyWorld K).kernel := holds
  refine Ends.bind (ioctl_leaves keeps configured _ _ rfl) ?_
  intro powered holds
  exact Ends.bind (ioctl_leaves keeps holds _ _ rfl) fun _ holds => holds

/-- A reset keeps the property of the kernel. -/
theorem handleReset_leaves (keeps : Ep0Keeps os Inv) {w : LegacyWorld K}
    (holds : Inv w.kernel) : Leaves Inv (handleReset os n w) := by
  have looped : Leaves Inv ((List.range n).foldlM (disableInterface os) w) :=
    Ends.foldlM (fun _ i holds => disableInterface_leaves keeps holds i) holds
  exact Ends.ite (Ends.bind looped fun _ holds => holds) holds

/-- The survey on a connect keeps the property of the kernel. -/
theorem handleConnect_leaves {w : LegacyWorld K} (holds : Inv w.kernel)
    (epsInfo : Except Errno UsbRawEpsInfo) : Leaves Inv (handleConnect epsInfo w) := by
  unfold handleConnect
  split
  · exact holds
  split
  · exact holds
  · exact holds

/-- The answer goes to endpoint zero. -/
theorem reply_leaves (keeps : Ep0Keeps os Inv) {w : LegacyWorld K} (holds : Inv w.kernel)
    {ctrl : UsbCtrlrequest} {call : Syscall} {bytes : List UInt8}
    (carries : call.transfer = answerTransfer ctrl bytes) :
    Leaves Inv (reply os ctrl call w) := by
  have isEp0 : ofEp0 call = true := by
    have endpointless := endpointless_of_answerTransfer carries
    cases call <;> first | rfl | cases endpointless
  have answered := ioctl_leaves keeps holds (answerWrapper ctrl) call isEp0
  rw [reply]
  cases called : ioctl os w (answerWrapper ctrl) call with
  | ok result =>
      rw [called] at answered
      exact answered
  | error stop =>
      rw [called] at answered
      exact answered

/-- A control request keeps the property of the kernel. -/
theorem handleControl_leaves (keeps : Ep0Keeps os Inv) (few : n ≤ 4) {w : LegacyWorld K}
    (holds : Inv w.kernel) (ctrl : UsbCtrlrequest) (stack : Vector UInt8 16384) :
    Leaves Inv (handleControl os n ctrl stack w) := by
  cases known : requestBytes n ctrl with
  | none =>
      rw [handleControl_of_unknown os stack w known]
      exact holds
  | some bytes =>
      by_cases set : IsSetConfiguration ctrl
      · obtain ⟨call, carries, handled⟩ := handleControl_of_setConfiguration os (n := n) stack w set
        rw [handled]
        exact Ends.bind (setConfiguration_leaves keeps holds) fun _ holds =>
          reply_leaves keeps holds carries
      · obtain ⟨call, carries, handled⟩ :=
          handleControl_of_known os stack w (fits_of_few few) known set
        rw [handled]
        exact reply_leaves keeps holds carries

/-- A round of the ep0 thread keeps the property of the kernel. -/
theorem ep0Iteration_leaves (keeps : Ep0Keeps os Inv) (few : n ≤ 4) {w : LegacyWorld K}
    (holds : Inv w.kernel) (fetched : Fetched) : Leaves Inv (ep0Iteration os n fetched w) := by
  apply Ends.ite (handleConnect_leaves holds _)
  apply Ends.ite (handleReset_leaves keeps holds)
  exact Ends.ite (handleControl_leaves keeps few holds _ _) holds

end Ep0

/-! ## Where a send goes -/

/-- The endpoints of the first configuration come first, two for each interface. -/
theorem getElem?_configurations {count i : Nat} (configured : count ≠ 0) (inRange : i < n) :
    (configurations n count)[i * 2]? = some (getIfX i).epIn := by
  obtain ⟨rest, rfl⟩ := Nat.exists_eq_succ_of_ne_zero configured
  obtain ⟨above, rfl⟩ := Nat.exists_eq_add_of_lt inRange
  have below : (configuration i).length = i * 2 := by
    rw [length_configuration, Nat.mul_comm]
  have split : configuration (i + above + 1) = configuration i ++
      ((getIfX i).epIn :: (getIfX i).epOut ::
        ((List.range above).map fun j => i + (j + 1)).flatMap interfaceEndpoints) := by
    rw [configuration, Nat.add_assoc, List.range_add, List.flatMap_append,
      List.range_succ_eq_map]
    simp [configuration, interfaceEndpoints, Function.comp_def]
  rw [configurations, List.replicate_succ, List.flatten_cons, split, List.append_assoc,
    List.getElem?_append_right (Nat.le_of_eq below), below, Nat.sub_self]
  rfl

/-- The handles that are guessed fit the header. -/
theorem toNat_epIntIn {i : Nat} (inRange : i < 4) : (UInt16.ofNat (i * 2)).toNat = i * 2 := by
  rw [UInt16.toNat_ofNat']
  exact Nat.mod_eq_of_lt (Nat.lt_trans (by omega : i * 2 < 8) (by decide))

/-- Of the transfer the kernel copies the data and nothing of the stack. -/
theorem interruptIo_eq {data : List UInt8} (short : data.length ≤ 32) (ep : UInt16)
    (stack : Vector UInt8 32) : ∃ io, interruptIo ep data stack = some io ∧ io.inner.ep = ep ∧
      io.data.bytes.take io.inner.length.toNat = data := by
  refine ⟨_, dif_pos short, rfl, ?_⟩
  have counted : (UInt32.ofNat data.length).toNat = data.length := by
    rw [UInt32.toNat_ofNat']
    exact Nat.mod_eq_of_lt (Nat.lt_of_le_of_lt short (by decide))
  simp only [IoBuffer.bytes, counted, List.append_assoc]
  rw [List.take_left]

section Send

variable {count i : Nat} {w : LegacyWorld (K × List Delivery)} {data : List UInt8}

/-- While a configuration is set, a send goes to the IN endpoint of its interface. -/
theorem sendToEp_delivers (ordered : Ordered os capacity array) (few : n ≤ 4)
    (tracks : Tracks n capacity (fun k => array k.1) count w) (configured : count ≠ 0)
    (inRange : i < n) (short : data.length ≤ 32) (stack : Vector UInt8 32) :
    ∃ sent after, sendToEp (os.delivering array) i data stack w = .ok (sent, after) ∧
      Tracks n capacity (fun k => array k.1) count after ∧
      after.kernel.2 = w.kernel.2 ++ [(some (getIfX i).epIn, data)] := by
  obtain ⟨io, built, ep, copied⟩ := interruptIo_eq short (UInt16.ofNat (i * 2)) stack
  have enabled : w.epIntEnabled = true := by
    rw [tracks.enabled]
    exact decide_eq_true configured
  have tracksAfter : Tracks n capacity (fun k => array k.1) count
      (w.after (os.delivering array) (.epWrite io)) := by
    refine ⟨tracks.fits, ?_, tracks.enabled⟩
    have unchanged : array (os.serve w.kernel.1 (.epWrite io)).2 = array w.kernel.1 :=
      ordered.other (fun _ => Syscall.noConfusion) fun _ => Syscall.noConfusion
    exact unchanged.trans tracks.endpoints
  have delivery : deliveryOf (array w.kernel.1) (.epWrite io) =
      some (some (getIfX i).epIn, data) := by
    have handle : array w.kernel.1 (i * 2) = some (getIfX i).epIn := by
      rw [tracks.endpoints]
      exact getElem?_configurations configured inRange
    rw [deliveryOf, ep, copied, toNat_epIntIn (by omega), handle]
  have given : (w.after (os.delivering array) (.epWrite io)).kernel.2 =
      w.kernel.2 ++ [(some (getIfX i).epIn, data)] := by
    change w.kernel.2 ++ (deliveryOf (array w.kernel.1) (.epWrite io)).toList = _
    rw [delivery]
    rfl
  simp only [sendToEp, enabled, built]
  cases ((os.delivering array).serve w.kernel (.epWrite io)).1.result with
  | ok rv => exact ⟨true, _, rfl, tracksAfter, given⟩
  | error errno => exact ⟨false, _, rfl, tracksAfter, given⟩

end Send

/-! ## The schedule -/

/-- The controls of the example: A is held in every other round, from the first on. -/
def exampleState (round : Nat) : InputState :=
  InputState.default.withButton .a (round % 2 = 0)

/-- The report that goes out as number `j`, and where it goes. -/
def scheduled (n j : Nat) : Delivery :=
  (some (getIfX (j % n)).epIn, (InputReport.fromInput (exampleState (j / n))).asBytes)

/-- The action is a round of the main loop. -/
def ProgramAction.isTick : ProgramAction → Bool
  | .tick => true
  | _ => false

/-- The action is a send of the main loop. -/
def ProgramAction.isSend : ProgramAction → Bool
  | .send _ => true
  | _ => false

/-- Rounds of the main loop among the actions. -/
def ticks (actions : List ProgramAction) : Nat := actions.countP ProgramAction.isTick

/-- Sends of the main loop among the actions. -/
def sends (actions : List ProgramAction) : Nat := actions.countP ProgramAction.isSend

/-- The packet of the source is the report of the state. -/
theorem packet_eq (round : Nat) :
    (if decide (round % 2 = 1) then blankPacket else aPacket) =
      (InputReport.fromInput (exampleState round)).asBytes := by
  rcases Nat.mod_two_eq_zero_or_one round with even | odd
  · rw [exampleState, even]
    decide
  · rw [exampleState, odd]
    decide

/-- Where the loop stands after so many rounds and sends. -/
def OnSchedule (n ticks sends : Nat) : Loop → Prop
  | .awaiting => ticks = 0 ∧ sends = 0
  | .idle timePassed aPressed => ∃ rounds, ticks = 1000 * rounds + timePassed ∧
      timePassed < 1000 ∧ sends = n * rounds ∧ aPressed = decide (rounds % 2 = 1)
  | .sending i aPressed => ∃ rounds, ticks = 1000 * (rounds + 1) ∧
      sends = n * rounds + i ∧ i < n ∧ aPressed = decide (rounds % 2 = 1)

/-- The next place in the loop over the interfaces. -/
theorem onSchedule_at {ticks rounds i : Nat} (counted : ticks = 1000 * (rounds + 1))
    (inRange : i ≤ n) {aPressed : Bool} (pressed : aPressed = decide (rounds % 2 = 1)) :
    OnSchedule n ticks (n * rounds + i) (Loop.at n i aPressed) := by
  unfold Loop.at
  split
  · next more => exact ⟨rounds, counted, rfl, more, pressed⟩
  · next done =>
      have last : i = n := by omega
      refine ⟨rounds + 1, counted, by decide, ?_, ?_⟩
      · rw [last, Nat.mul_succ]
      · rw [pressed, ← decide_not]
        apply decide_eq_decide.mpr
        omega

/-! ## Runs -/

section Runs

/-- What holds after the actions of a run. -/
structure Example (n capacity : Nat) (array : K → EndpointArray) (actions : List ProgramAction)
    (s : Program (K × List Delivery)) : Prop where
  delivered : (finalKernel s.handler).2 = (List.range (sends actions)).map (scheduled n)
  schedule : OnSchedule n (ticks actions) (sends actions) s.loop
  tracks : ∀ {w}, s.handler = .ok w → ∃ count,
    Tracks n capacity (fun k => array k.1) count w ∧ (s.loop ≠ .awaiting → count ≠ 0)

variable {actions : List ProgramAction} {s next : Program (K × List Delivery)}

/-- The program starts where its invariant holds. -/
theorem example_new {k : K} (disabled : Disabled (array k)) :
    Example n capacity array [] (.new (k, [])) where
  delivered := rfl
  schedule := ⟨rfl, rfl⟩
  tracks := by
    rintro w same
    cases same
    exact ⟨0, tracks_new disabled, fun started => absurd rfl started⟩

/-- Handling an event changes neither thread's schedule. -/
theorem Example.ep0 (ordered : Ordered os capacity array) (obliging : Obliging os)
    (nonempty : 1 ≤ n) (few : n ≤ 4) (holds : Example n capacity array actions s)
    {w : LegacyWorld (K × List Delivery)} (alive : s.handler = .ok w) (fetched : Fetched) :
    Example n capacity array (actions ++ [.ep0 fetched])
      { s with handler := ep0Iteration (os.delivering array) n fetched w } := by
  have sameTicks : ticks (actions ++ [.ep0 fetched]) = ticks actions := by
    simp [ticks, ProgramAction.isTick]
  have sameSends : sends (actions ++ [.ep0 fetched]) = sends actions := by
    simp [sends, ProgramAction.isSend]
  obtain ⟨count, tracks, configured⟩ := holds.tracks alive
  refine ⟨?_, ?_, ?_⟩
  · have keeps : Ep0Keeps (os.delivering array) fun k => k.2 = w.kernel.2 := by
      intro k call isEp0 same
      have none : deliveryOf (array k.1) call = none := by
        cases call <;> first | rfl | cases isEp0
      change k.2 ++ (deliveryOf (array k.1) call).toList = w.kernel.2
      rw [none, same]
      exact List.append_nil _
    have leaves : Leaves (fun k => k.2 = w.kernel.2)
        (ep0Iteration (os.delivering array) n fetched w) := by
      refine ep0Iteration_leaves keeps few ?_ fetched
      rfl
    have before := holds.delivered
    rw [alive] at before
    rw [sameSends, ← before]
    cases handled : ep0Iteration (os.delivering array) n fetched w with
    | ok after =>
        rw [handled] at leaves
        exact leaves
    | error stop =>
        rw [handled] at leaves
        exact leaves
  · rw [sameTicks, sameSends]
    exact holds.schedule
  · intro after handled
    have goes := ep0Iteration_goes ordered.delivering (obliging.delivering array) nonempty few
      tracks fetched
    have handled : ep0Iteration (os.delivering array) n fetched w = .ok after := handled
    cases stepped : (lifetime n capacity).step count fetched with
    | none =>
        rw [stepped, handled] at goes
        obtain ⟨stop, same⟩ := goes
        cases same
    | some next =>
        rw [stepped, handled] at goes
        obtain ⟨same, equal, tracksAfter⟩ := goes
        cases equal
        obtain ⟨-, rfl⟩ := lifetime_eq_some_iff.mp stepped
        refine ⟨_, tracksAfter, ?_⟩
        intro started none
        exact configured started (Nat.eq_zero_of_add_eq_zero_right none)

/-- A look at `ep_int_enabled` keeps the invariant of the program. -/
theorem Example.poll (holds : Example n capacity array actions s)
    {w : LegacyWorld (K × List Delivery)} (alive : s.handler = .ok w)
    (waiting : s.loop = .awaiting) : Example n capacity array (actions ++ [.poll])
      { s with loop := if w.epIntEnabled then .idle 0 false else .awaiting } := by
  have sameTicks : ticks (actions ++ [.poll]) = ticks actions := by
    simp [ticks, ProgramAction.isTick]
  have sameSends : sends (actions ++ [.poll]) = sends actions := by
    simp [sends, ProgramAction.isSend]
  have schedule := holds.schedule
  rw [waiting] at schedule
  obtain ⟨noTicks, noSends⟩ := schedule
  refine ⟨?_, ?_, ?_⟩
  · rw [sameSends]
    exact holds.delivered
  · rw [sameTicks, sameSends]
    dsimp only
    split
    · exact ⟨0, noTicks, by decide, noSends, rfl⟩
    · exact ⟨noTicks, noSends⟩
  · intro after same
    have same : s.handler = .ok after := same
    cases alive.symm.trans same
    obtain ⟨count, tracks, -⟩ := holds.tracks alive
    refine ⟨count, tracks, ?_⟩
    intro started none
    have enabled := tracks.enabled
    rw [decide_eq_false (not_not.mpr none)] at enabled
    rw [enabled] at started
    exact started rfl

/-- A round of the main loop keeps the invariant of the program. -/
theorem Example.tick (holds : Example n capacity array actions s)
    {w : LegacyWorld (K × List Delivery)} (alive : s.handler = .ok w) {timePassed : Nat}
    {aPressed : Bool} (idle : s.loop = .idle timePassed aPressed) :
    Example n capacity array (actions ++ [.tick])
      { s with loop := Loop.tick n w.epIntEnabled timePassed aPressed } := by
  have oneMore : ticks (actions ++ [.tick]) = ticks actions + 1 := by
    simp [ticks, ProgramAction.isTick]
  have sameSends : sends (actions ++ [.tick]) = sends actions := by
    simp [sends, ProgramAction.isSend]
  have schedule := holds.schedule
  rw [idle] at schedule
  obtain ⟨rounds, counted, early, sent, pressed⟩ := schedule
  obtain ⟨count, tracks, configured⟩ := holds.tracks alive
  have isConfigured : count ≠ 0 := configured (by rw [idle]; exact Loop.noConfusion)
  have enabled : w.epIntEnabled = true := by
    rw [tracks.enabled]
    exact decide_eq_true isConfigured
  refine ⟨?_, ?_, ?_⟩
  · rw [sameSends]
    exact holds.delivered
  · rw [oneMore, sameSends, Loop.tick, sent]
    split
    · next due =>
        have total : ticks actions + 1 = 1000 * (rounds + 1) := by omega
        exact onSchedule_at total (Nat.zero_le n) pressed
    · next notDue =>
        have early : timePassed + 1 < 1000 := by
          refine Nat.lt_of_not_le ?_
          intro late
          exact notDue ⟨enabled, late⟩
        exact ⟨rounds, by omega, early, rfl, pressed⟩
  · intro after same
    have same : s.handler = .ok after := same
    cases alive.symm.trans same
    exact ⟨count, tracks, fun _ => isConfigured⟩

/-- A send delivers one report and keeps the invariant of the program. -/
theorem Example.send (ordered : Ordered os capacity array) (few : n ≤ 4)
    (holds : Example n capacity array actions s) {w : LegacyWorld (K × List Delivery)}
    (alive : s.handler = .ok w) {i : Nat} {aPressed : Bool} (sending : s.loop = .sending i aPressed)
    (stack : Vector UInt8 32) : ∃ sent after,
      sendToEp (os.delivering array) i (if aPressed then blankPacket else aPacket) stack w =
        .ok (sent, after) ∧
      Example n capacity array (actions ++ [.send stack])
        { handler := .ok after, loop := Loop.at n (i + 1) aPressed } := by
  have sameTicks : ticks (actions ++ [.send stack]) = ticks actions := by
    simp [ticks, ProgramAction.isTick]
  have oneMore : sends (actions ++ [.send stack]) = sends actions + 1 := by
    simp [sends, ProgramAction.isSend]
  have schedule := holds.schedule
  rw [sending] at schedule
  obtain ⟨rounds, counted, sent, inRange, pressed⟩ := schedule
  obtain ⟨count, tracks, configured⟩ := holds.tracks alive
  have isConfigured : count ≠ 0 := configured (by rw [sending]; exact Loop.noConfusion)
  have packet : (if aPressed then blankPacket else aPacket) =
      (InputReport.fromInput (exampleState rounds)).asBytes := by
    rw [pressed]
    exact packet_eq rounds
  have short : (if aPressed then blankPacket else aPacket).length ≤ 32 := by
    rw [packet, InputReport.length_asBytes]
    decide
  obtain ⟨written, after, returned, tracksAfter, delivered⟩ :=
    sendToEp_delivers ordered few tracks isConfigured inRange short stack
  have place : scheduled n (sends actions) = (some (getIfX i).epIn,
      if aPressed then blankPacket else aPacket) := by
    have interface : (n * rounds + i) % n = i := by
      rw [Nat.mul_add_mod]
      exact Nat.mod_eq_of_lt inRange
    have round : (n * rounds + i) / n = rounds := by
      rw [Nat.mul_add_div (by omega), Nat.div_eq_of_lt inRange, Nat.add_zero]
    rw [scheduled, sent, interface, round, packet]
  refine ⟨written, after, returned, ?_, ?_, ?_⟩
  · have before := holds.delivered
    rw [alive] at before
    rw [oneMore, List.range_succ, List.map_append, ← before]
    change after.kernel.2 = w.kernel.2 ++ [scheduled n (sends actions)]
    rw [delivered, place]
  · rw [sameTicks, oneMore, sent]
    exact onSchedule_at counted inRange pressed
  · rintro _ ⟨⟩
    exact ⟨count, tracksAfter, fun _ => isConfigured⟩

/-- Every step of the two threads keeps the invariant of the program. -/
theorem Example.step (ordered : Ordered os capacity array) (obliging : Obliging os)
    (nonempty : 1 ≤ n) (few : n ≤ 4) (holds : Example n capacity array actions s)
    {action : ProgramAction}
    (stepped : (program (os.delivering array) n).step s action = some next) :
    Example n capacity array (actions ++ [action]) next := by
  obtain ⟨handler, loop⟩ := s
  cases handler with
  | error stop => cases action <;> cases stepped
  | ok w =>
      cases action with
      | ep0 fetched =>
          cases stepped
          exact holds.ep0 ordered obliging nonempty few rfl fetched
      | poll =>
          cases loop with
          | awaiting =>
              cases stepped
              exact holds.poll rfl rfl
          | idle timePassed aPressed => cases stepped
          | sending i aPressed => cases stepped
      | tick =>
          cases loop with
          | awaiting => cases stepped
          | idle timePassed aPressed =>
              cases stepped
              exact holds.tick rfl rfl
          | sending i aPressed => cases stepped
      | send stack =>
          cases loop with
          | awaiting => cases stepped
          | idle timePassed aPressed => cases stepped
          | sending i aPressed =>
              obtain ⟨sent, after, returned, holdsAfter⟩ := holds.send ordered few rfl rfl stack
              simp only [program, Program.step, returned] at stepped
              cases stepped
              exact holdsAfter

/-- However the two threads take turns, the reports that were handed to the kernel are
the first of the schedule, each for the IN endpoint of its interface, and the main
loop is where the number of its rounds says. -/
theorem example_of_run (ordered : Ordered os capacity array) (obliging : Obliging os)
    (nonempty : 1 ≤ n) (few : n ≤ 4) {k : K} (disabled : Disabled (array k))
    (runs : (program (os.delivering array) n).run (.new (k, [])) actions = some s) :
    (finalKernel s.handler).2 = (List.range (sends actions)).map (scheduled n) ∧
      OnSchedule n (ticks actions) (sends actions) s.loop := by
  have holds : Example n capacity array actions s := by
    induction actions using List.reverseRecOn generalizing s with
    | nil =>
        cases runs
        exact example_new disabled
    | append_singleton actions action ih =>
        obtain ⟨middle, before, stepped⟩ := (program _ n).run_concat_eq_some.mp runs
        exact (ih before).step ordered obliging nonempty few stepped
  exact ⟨holds.delivered, holds.schedule⟩

end Runs

/-! ## Whole rounds -/

section Rounds

/-- While the loop is idle, ticks before the thousandth only pass. -/
theorem run_ticks {w : LegacyWorld K} {timePassed : Nat} (aPressed : Bool) (count : Nat)
    (early : timePassed + count < 1000) :
    (program os n).run ⟨.ok w, .idle timePassed aPressed⟩ (List.replicate count .tick) =
      some ⟨.ok w, .idle (timePassed + count) aPressed⟩ := by
  induction count generalizing timePassed with
  | zero => rfl
  | succ count ih =>
      have notDue : ¬(w.epIntEnabled = true ∧ timePassed + 1 ≥ 1000) := fun due => by omega
      have ticked : (program os n).step ⟨.ok w, .idle timePassed aPressed⟩ .tick =
          some ⟨.ok w, .idle (timePassed + 1) aPressed⟩ := by
        simp only [program, Program.step, Loop.tick, if_neg notDue]
      rw [List.replicate_succ, Machine.run_cons, ticked, Option.bind_some, ih (by omega),
        Nat.add_right_comm, Nat.add_assoc]

/-- With a configuration set, the thousandth tick starts the sends. -/
theorem run_thousand {w : LegacyWorld K} (enabled : w.epIntEnabled = true) (aPressed : Bool) :
    (program os n).run ⟨.ok w, .idle 0 aPressed⟩ (List.replicate 1000 .tick) =
      some ⟨.ok w, Loop.at n 0 aPressed⟩ := by
  have due : w.epIntEnabled = true ∧ 0 + 999 + 1 ≥ 1000 := ⟨enabled, by decide⟩
  have last : (program os n).step ⟨.ok w, .idle (0 + 999) aPressed⟩ .tick =
      some ⟨.ok w, Loop.at n 0 aPressed⟩ := by
    simp only [program, Program.step, Loop.tick, if_pos due]
  rw [List.replicate_succ' (n := 999), Machine.run_append, run_ticks aPressed 999 (by decide),
    Option.bind_some, Machine.run_cons, last]
  rfl

variable {count : Nat} {w : LegacyWorld (K × List Delivery)}

/-- The sends that are left of a round all go out, and the loop is idle again. -/
theorem run_sends (ordered : Ordered os capacity array) (few : n ≤ 4)
    (tracks : Tracks n capacity (fun k => array k.1) count w) (configured : count ≠ 0)
    (aPressed : Bool) {i : Nat} (pads : List (Vector UInt8 32)) (left : i + pads.length = n) :
    ∃ after, (program (os.delivering array) n).run ⟨.ok w, Loop.at n i aPressed⟩
        (pads.map .send) = some ⟨.ok after, .idle 0 (!aPressed)⟩ ∧
      Tracks n capacity (fun k => array k.1) count after := by
  induction pads generalizing i w with
  | nil =>
      have finished : ¬i < n := Nat.not_lt_of_le (Nat.le_of_eq left.symm)
      rw [Loop.at, if_neg finished]
      exact ⟨w, rfl, tracks⟩
  | cons stack rest ih =>
      rw [List.length_cons] at left
      have inRange : i < n := by omega
      have short : (if aPressed then blankPacket else aPacket).length ≤ 32 := by
        cases aPressed <;> decide
      obtain ⟨sent, middle, returned, tracksMiddle, -⟩ :=
        sendToEp_delivers ordered few tracks configured inRange short stack
      have stepped : (program (os.delivering array) n).step ⟨.ok w, .sending i aPressed⟩
          (.send stack) = some ⟨.ok middle, Loop.at n (i + 1) aPressed⟩ := by
        simp only [program, Program.step, returned]
      obtain ⟨after, runs, tracksAfter⟩ := ih (i := i + 1) tracksMiddle (by omega)
      refine ⟨after, ?_, tracksAfter⟩
      rw [Loop.at, if_pos inRange, List.map_cons, Machine.run_cons, stepped, Option.bind_some, runs]

/-- While a configuration is set, a thousand ticks and a send to each interface are a
round, after which the next one can begin. -/
theorem run_round (ordered : Ordered os capacity array) (few : n ≤ 4)
    (tracks : Tracks n capacity (fun k => array k.1) count w) (configured : count ≠ 0)
    (aPressed : Bool) (pads : List (Vector UInt8 32)) (all : pads.length = n) :
    ∃ after, (program (os.delivering array) n).run ⟨.ok w, .idle 0 aPressed⟩
        (List.replicate 1000 .tick ++ pads.map .send) =
          some ⟨.ok after, .idle 0 (!aPressed)⟩ ∧
      Tracks n capacity (fun k => array k.1) count after := by
  have enabled : w.epIntEnabled = true := by
    rw [tracks.enabled]
    exact decide_eq_true configured
  rw [Machine.run_append, run_thousand enabled, Option.bind_some]
  exact run_sends ordered few tracks configured aPressed pads ((Nat.zero_add _).trans all)

/-- A SET_CONFIGURATION that fits lets the main loop begin. -/
theorem run_configured (ordered : Ordered os capacity array) (obliging : Obliging os)
    (nonempty : 1 ≤ n) (few : n ≤ 4) {k : K} (disabled : Disabled (array k))
    (room : 2 * n ≤ capacity) :
    ∃ w, (program (os.delivering array) n).run (.new (k, []))
        [.ep0 (.of (.setConfiguration 1)), .poll] = some ⟨.ok w, .idle 0 false⟩ ∧
      Tracks n capacity (fun k => array k.1) 1 w := by
  have tracks : Tracks n capacity (fun k => array k.1) 0 (.new (k, ([] : List Delivery))) :=
    tracks_new disabled
  have tolerated : (Fetched.of (.setConfiguration 1)).Tolerated n capacity 0 := by
    refine ⟨by decide, fun _ => rfl, fun _ => ?_⟩
    rw [Nat.zero_add, Nat.one_mul]
    exact room
  have goes := ep0Iteration_goes ordered.delivering (obliging.delivering array) nonempty few
    tracks (.of (.setConfiguration 1))
  rw [lifetime_eq_some_iff.mpr ⟨tolerated, rfl⟩] at goes
  obtain ⟨w, handled, tracksAfter⟩ := goes
  have enabled : w.epIntEnabled = true := tracksAfter.enabled
  refine ⟨w, ?_, tracksAfter⟩
  have first : (program (os.delivering array) n).step (.new (k, []))
      (.ep0 (.of (.setConfiguration 1))) = some ⟨.ok w, .awaiting⟩ := by
    simp only [program, Program.step, Program.new, handled]
  have second : (program (os.delivering array) n).step ⟨.ok w, .awaiting⟩ .poll =
      some ⟨.ok w, .idle 0 false⟩ := by
    simp only [program, Program.step, enabled, if_true]
  rw [Machine.run_cons, first, Option.bind_some, Machine.run_cons, second]
  rfl

end Rounds

/-- The host configures the gadget, and the first round of the loop goes by. -/
def firstRound : List ProgramAction :=
  [.ep0 (.of (.setConfiguration 1)), .poll] ++
    (List.replicate 1000 .tick ++ (List.replicate 4 (Vector.replicate 32 0)).map .send)

/-- Each of the four interfaces got its report, with A pressed. -/
theorem example_of_run_configured : ∃ s,
    (program ((Os.ordered 8).delivering id) 4).run (.new (arrayOf [], [])) firstRound = some s ∧
      (finalKernel s.handler).2 =
        [(some (getIfX 0).epIn, aPacket), (some (getIfX 1).epIn, aPacket),
          (some (getIfX 2).epIn, aPacket), (some (getIfX 3).epIn, aPacket)] ∧
      s.loop = .idle 0 true := by
  have ordered : Ordered (Os.ordered 8) 8 id := ordered_ordered (by decide)
  have obliging : Obliging (Os.ordered 8) := obliging_ordered 8
  have disabled : Disabled (id (arrayOf [])) := rfl
  obtain ⟨w, configured, tracks⟩ := run_configured ordered obliging (by decide) (Nat.le_refl 4)
    disabled (by decide)
  obtain ⟨after, round, -⟩ := run_round ordered (Nat.le_refl 4) tracks Nat.one_ne_zero false
    (List.replicate 4 (Vector.replicate 32 0)) rfl
  have runs : (program ((Os.ordered 8).delivering id) 4).run (.new (arrayOf [], [])) firstRound =
      some ⟨.ok after, .idle 0 true⟩ := by
    rw [firstRound, Machine.run_append, configured, Option.bind_some, round]
    rfl
  obtain ⟨delivered, -⟩ := example_of_run ordered obliging (by decide) (Nat.le_refl 4) disabled
    runs
  have four : sends firstRound = 4 := by
    rw [sends, firstRound, List.countP_append, List.countP_append, List.map_replicate,
      List.countP_replicate, List.countP_replicate]
    rfl
  refine ⟨_, runs, delivered.trans ?_, rfl⟩
  rw [four]
  rfl

end X360Gadget.Legacy
