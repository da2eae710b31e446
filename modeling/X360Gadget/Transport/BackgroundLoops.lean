import X360Gadget.Std.Retry
import X360Gadget.Transport.Lifetime

/-!
# The background loops to their ends

`ep0_loop` and `ep_out_loop` on whole sequences of results. Each retries one of
the two transient errors: `ep0_loop` EAGAIN, `ep_out_loop` EINTR. The other one
ends the loop, and whatever the kernel would still have delivered is lost.
`ep0_loop` also ends at an event whose handler panics.
-/

namespace X360Gadget.Transport

open X360Gadget.Descriptors X360Gadget.Kernel X360Gadget.Protocol X360Gadget.Std

variable {K : Type}

/-! ## The loops -/

/-- `ep0_loop` on the results of its `EVENT_FETCH` calls, as far as they go. -/
def ep0Loop (os : Os K) (numInterfaces : UInt8) (desc : DescriptorBytes) :
    List (Except Errno UsbRawControlEvent) → Ep0World K → Outcome (Ep0World K) (Ep0World K)
  | [], w => .ok w
  | fetched :: rest, w =>
      match ep0Iteration os numInterfaces desc fetched w with
      | .ok (.again, w) => ep0Loop os numInterfaces desc rest w
      | .ok (.exit, w) => .ok w
      | .error panic => .error panic

/-- `ep_out_loop` on the results of its `EP_READ` calls, as far as they go, while
the receiver of the channel is alive. -/
def epOutLoop (slot : UInt8) :
    List (Except Errno (Int32 × IoBuffer 32)) → OutputBuffers → Outcome OutputBuffers OutputBuffers
  | [], out => .ok out
  | read :: rest, out =>
      match epOutIteration read with
      | .ok (.send report) => epOutLoop slot rest (out.send slot report)
      | .ok .again => epOutLoop slot rest out
      | .ok .exit => .ok out
      | .error why => .error (why, out)

/-- An error after which the call is worth repeating. -/
def isTransient (errno : Errno) : Bool :=
  errno = eagain ∨ errno = eintr

/-- The error `ep0_loop` retries. -/
def ep0Retries (errno : Errno) : Bool := errno = eagain

/-- The error `ep_out_loop` retries. -/
def epOutRetries (errno : Errno) : Bool := errno = eintr

/-- Act on events in order; a panic ends the thread. -/
def handleEvents (os : Os K) (numInterfaces : UInt8) (desc : DescriptorBytes) :
    List UsbRawControlEvent → Ep0World K → Outcome (Ep0World K) (Ep0World K)
  | [], w => .ok w
  | event :: rest, w =>
      match handleEvent os numInterfaces desc event w with
      | .ok w => handleEvents os numInterfaces desc rest (markHandled event w)
      | .error panic => .error panic

/-- The packet of a completed read. -/
def packetOf (read : Int32 × IoBuffer 32) : List UInt8 := read.2.bytes.take read.1.toInt.toNat

/-- The report in a completed read. -/
def reportOf (read : Int32 × IoBuffer 32) : Option OutputReport :=
  OutputReport.fromBytes (packetOf read)

/-- Send reports for a slot in order. -/
def sendAll (slot : UInt8) (reports : List OutputReport) (out : OutputBuffers) : OutputBuffers :=
  reports.foldl (fun out report => out.send slot report) out

/-! ## What the loops use -/

/-- `ep0_loop` acts on the events before the first error other than EAGAIN. -/
theorem ep0Loop_eq (os : Os K) (numInterfaces : UInt8) (desc : DescriptorBytes)
    (results : List (Except Errno UsbRawControlEvent)) (w : Ep0World K) :
    ep0Loop os numInterfaces desc results w =
      handleEvents os numInterfaces desc (untilFatal some ep0Retries results) w := by
  induction results generalizing w with
  | nil => rfl
  | cons fetched rest ih =>
      cases fetched with
      | ok event =>
          have whole : untilFatal some ep0Retries (.ok event :: rest) =
              event :: untilFatal some ep0Retries rest := rfl
          rw [whole, ep0Loop, ep0Iteration, handleEvents]
          cases handleEvent os numInterfaces desc event w with
          | ok w => exact ih _
          | error panic => rfl
      | error errno =>
          by_cases retried : errno = eagain
          · simp [ep0Loop, ep0Iteration, untilFatal, ep0Retries, retried, ih]
          · simp [ep0Loop, ep0Iteration, untilFatal, ep0Retries, retried, handleEvents]

/-- An iteration on a read that fits the buffer sends the report in it, if any. -/
theorem epOutIteration_ok {read : Int32 × IoBuffer 32} (fits : read.1.toInt.toNat ≤ 32) :
    epOutIteration (.ok read) =
      match reportOf read with
      | some report => .ok (.send report)
      | none => .ok .again := by
  obtain ⟨n, data⟩ := read
  by_cases positive : 0 < n.toInt
  · cases sent : reportOf (n, data) with
    | some report =>
        simp only [reportOf, packetOf] at sent
        simp only [epOutIteration, if_pos positive, if_pos fits, sent]
    | none =>
        simp only [reportOf, packetOf] at sent
        simp only [epOutIteration, if_pos positive, if_pos fits, sent]
  · have empty : n.toInt.toNat = 0 := Int.toNat_eq_zero.mpr (Int.not_lt.mp positive)
    have nothing : reportOf (n, data) = none := by
      rw [reportOf, packetOf, empty]
      rfl
    simp only [epOutIteration, if_neg positive, nothing]

/-- `ep_out_loop` sends the reports before the first error other than EINTR. -/
theorem epOutLoop_eq (slot : UInt8) {reads : List (Except Errno (Int32 × IoBuffer 32))}
    (bounded : ∀ read, .ok read ∈ reads → read.1.toInt.toNat ≤ 32) (out : OutputBuffers) :
    epOutLoop slot reads out = .ok (sendAll slot (untilFatal reportOf epOutRetries reads) out) := by
  induction reads generalizing out with
  | nil => rfl
  | cons read rest ih =>
      have later : ∀ read, .ok read ∈ rest → read.1.toInt.toNat ≤ 32 :=
        fun other member => bounded other (List.mem_cons_of_mem _ member)
      cases read with
      | ok read =>
          rw [epOutLoop, epOutIteration_ok (bounded read List.mem_cons_self), untilFatal]
          cases reportOf read with
          | some report => exact ih later _
          | none => exact ih later _
      | error errno =>
          by_cases retried : errno = eintr
          · simp [epOutLoop, epOutIteration, untilFatal, epOutRetries, retried, ih later]
          · simp [epOutLoop, epOutIteration, untilFatal, epOutRetries, retried, sendAll]

/-! ## The loops in the machine of all threads -/

section Machine

variable {os : Os K} {numInterfaces : UInt8} {desc : DescriptorBytes} {g : Gadget K}

/-- The ep0 thread alone, with the other threads at rest, runs `ep0_loop`. -/
theorem gadget_run_ep0Loop (alive : g.ep0Alive = true)
    (results : List (Except Errno UsbRawControlEvent)) :
    ∃ taken stillAlive, taken <+: results ∧
      (gadget os numInterfaces desc).run g (taken.map .fetch) = some { g with
        world := (ep0Loop os numInterfaces desc results g.world).finalState
        ep0Alive := stillAlive } := by
  induction results generalizing g with
  | nil => exact ⟨[], true, List.nil_prefix, by rw [← alive]; rfl⟩
  | cons fetched rest ih =>
      have stepped : (gadget os numInterfaces desc).step g (.fetch fetched) =
          some (stepFetch os numInterfaces desc g fetched) := if_pos alive
      rw [ep0Loop]
      unfold stepFetch at stepped
      split at stepped
      · next w again =>
          obtain ⟨taken, stillAlive, isPrefix, runs⟩ := ih (g := { g with world := w }) alive
          refine ⟨fetched :: taken, stillAlive, List.cons_prefix_cons.mpr ⟨rfl, isPrefix⟩, ?_⟩
          rw [List.map_cons, Machine.run_cons, stepped, again]
          exact runs
      · next w exit =>
          refine ⟨[fetched], false, List.cons_prefix_cons.mpr ⟨rfl, List.nil_prefix⟩, ?_⟩
          rw [List.map_cons, Machine.run_cons, stepped, exit]
          rfl
      · next why w panicked =>
          refine ⟨[fetched], false, List.cons_prefix_cons.mpr ⟨rfl, List.nil_prefix⟩, ?_⟩
          rw [List.map_cons, Machine.run_cons, stepped, panicked]
          rfl

/-- A reader thread alone, with the receiver alive, runs `ep_out_loop`. -/
theorem gadget_run_epOutLoop {reader : Reader} (live : reader ∈ g.world.readers)
    (opened : g.closed = false) (reads : List (Except Errno (Int32 × IoBuffer 32))) :
    ∃ taken world, taken <+: reads ∧
      (gadget os numInterfaces desc).run g (taken.map (.epOut reader)) = some { g with
        world
        output := (epOutLoop reader.slot reads g.output).finalState } := by
  induction reads generalizing g with
  | nil => exact ⟨[], g.world, List.nil_prefix, rfl⟩
  | cons read rest ih =>
      have stepped : (gadget os numInterfaces desc).step g (.epOut reader read) =
          some (stepEpOut g reader read) := if_pos live
      have goesOn : ∀ out, stepEpOut g reader read = { g with output := out } →
          epOutLoop reader.slot (read :: rest) g.output = epOutLoop reader.slot rest out →
          ∃ taken world, taken <+: read :: rest ∧
            (gadget os numInterfaces desc).run g (taken.map (.epOut reader)) = some { g with
              world
              output := (epOutLoop reader.slot (read :: rest) g.output).finalState } := by
        intro out step looped
        obtain ⟨taken, world, isPrefix, runs⟩ := ih (g := { g with output := out }) live opened
        refine ⟨read :: taken, world, List.cons_prefix_cons.mpr ⟨rfl, isPrefix⟩, ?_⟩
        rw [List.map_cons, Machine.run_cons, stepped, step, Option.bind_some, runs, looped]
      have stops : stepEpOut g reader read = { g with world := endReader reader g.world } →
          (epOutLoop reader.slot (read :: rest) g.output).finalState = g.output →
          ∃ taken world, taken <+: read :: rest ∧
            (gadget os numInterfaces desc).run g (taken.map (.epOut reader)) = some { g with
              world
              output := (epOutLoop reader.slot (read :: rest) g.output).finalState } := by
        intro step kept
        refine ⟨[read], endReader reader g.world,
          List.cons_prefix_cons.mpr ⟨rfl, List.nil_prefix⟩, ?_⟩
        rw [List.map_cons, Machine.run_cons, stepped, step, Option.bind_some, List.map_nil,
          Machine.run_nil, kept]
      cases outcome : epOutIteration read with
      | ok next =>
          cases next with
          | send report =>
              have receives : ¬g.closed = true := by simp [opened]
              apply goesOn (g.output.send reader.slot report)
              · simp only [stepEpOut, outcome, if_neg receives]
              · simp only [epOutLoop, outcome]
          | again =>
              apply goesOn g.output
              · simp only [stepEpOut, outcome]
              · simp only [epOutLoop, outcome]
          | exit =>
              apply stops
              · simp only [stepEpOut, outcome]
              · simp only [epOutLoop, outcome, Outcome.finalState_ok]
      | error why =>
          apply stops
          · simp only [stepEpOut, outcome]
          · simp only [epOutLoop, outcome, Outcome.finalState_error]

end Machine

/-! ## What is lost -/

/-- What the EP0 thread retries is transient. -/
theorem isTransient_of_ep0Retries {errno : Errno} (retried : ep0Retries errno) :
    isTransient errno := by
  simp only [ep0Retries, decide_eq_true_eq] at retried
  simp [isTransient, retried]

/-- What a reader retries is transient. -/
theorem isTransient_of_epOutRetries {errno : Errno} (retried : epOutRetries errno) :
    isTransient errno := by
  simp only [epOutRetries, decide_eq_true_eq] at retried
  simp [isTransient, retried]

/-- Sending appends to the channel. -/
theorem outputRx_sendAll (slot : UInt8) (reports : List OutputReport) (out : OutputBuffers) :
    (sendAll slot reports out).outputRx =
      out.outputRx ++ reports.map fun report => (slot, report) := by
  induction reports generalizing out with
  | nil => simp [sendAll]
  | cons report rest ih =>
      have first : sendAll slot (report :: rest) out =
          sendAll slot rest (out.send slot report) := rfl
      rw [first, ih, OutputBuffers.send, List.map_cons, List.append_assoc]
      rfl

/-- Different reports leave different channels. -/
theorem sendAll_inj {slot : UInt8} {first second : List OutputReport} {out : OutputBuffers} :
    sendAll slot first out = sendAll slot second out ↔ first = second := by
  constructor
  · intro same
    have channels := congrArg OutputBuffers.outputRx same
    rw [outputRx_sendAll, outputRx_sendAll, List.append_cancel_left_eq] at channels
    exact List.map_injective_iff.mpr (fun _ _ => And.right ∘ Prod.mk.inj) channels
  · exact congrArg _

/-! ## Events that panic -/

/-- A GET_DESCRIPTOR request asks for more of a descriptor than a transfer holds. -/
def Overruns (desc : DescriptorBytes) (ctrl : UsbCtrlrequest) : Prop :=
  IsGetDescriptor ctrl ∧ ∃ bytes, descriptorData desc ctrl.wValue = some bytes ∧
    16384 < min bytes.length ctrl.wLength.toNat

/-- The handler of the event panics: it needs the mutex that is poisoned, or it copies
past the transfer. -/
def Panics (desc : DescriptorBytes) (poisoned : Prop) (event : UsbRawControlEvent) : Prop :=
  ((IsDetach event ∨ Configures event) ∧ poisoned) ∨
    (event.typ = usbRawEventControl ∧ Overruns desc event.ctrl)

section Panics

variable {os : Os K} {numInterfaces : UInt8} {desc : DescriptorBytes} {w : Ep0World K}

/-- An event is handled to the end exactly when its handler does not panic. -/
theorem handleEvent_returns_iff (few : numInterfaces.toNat ≤ 4) {event : UsbRawControlEvent} :
    (∃ next, handleEvent os numInterfaces desc event w = .ok next) ↔
      ¬Panics desc (w.poisoned = true) event := by
  have panics : (handleEvent os numInterfaces desc event w).isOk = false ↔
      Panics desc (w.poisoned = true) event :=
    (handleEvent_panics_iff few).trans
      (or_congr_right (and_congr_right fun _ => controlReply_eq_none_iff))
  rw [← panics]
  cases handleEvent os numInterfaces desc event w with
  | ok next => exact iff_of_true ⟨next, rfl⟩ Bool.noConfusion
  | error panic =>
      refine iff_of_false ?_ (not_not.mpr rfl)
      rintro ⟨next, ⟨⟩⟩

/-- Handling an event logs none as handled and poisons nothing. -/
theorem handleEvent_keeps {event : UsbRawControlEvent} {next : Ep0World K}
    (few : numInterfaces.toNat ≤ 4)
    (handled : handleEvent os numInterfaces desc event w = .ok next) :
    next.poisoned = w.poisoned ∧ handledEvents next.log = handledEvents w.log := by
  have outcome : HandledAs os numInterfaces.toNat event w
      (handleEvent os numInterfaces desc event w) := handleEvent_handledAs few
  rw [handled] at outcome
  cases outcome with
  | ignored attached other => exact ⟨rfl, rfl⟩
  | detached detach sound => exact ⟨rfl, rfl⟩
  | configured configures sound => exact ⟨configured_poisoned, configured_handledEvents⟩
  | answered attached other call reply => exact ⟨rfl, by simp⟩

/-- Events that were handled one after the other are in the log. -/
theorem handleEvents_log (few : numInterfaces.toNat ≤ 4) {events : List UsbRawControlEvent}
    {after : Ep0World K} (handled : handleEvents os numInterfaces desc events w = .ok after) :
    handledEvents after.log = handledEvents w.log ++ events := by
  induction events generalizing w with
  | nil =>
      cases handled
      exact (List.append_nil _).symm
  | cons event rest ih =>
      rw [handleEvents] at handled
      cases first : handleEvent os numInterfaces desc event w with
      | ok next =>
          rw [first] at handled
          obtain ⟨-, log⟩ := handleEvent_keeps few first
          rw [ih handled, handledEvents_markHandled, log, List.append_assoc]
          rfl
      | error panic =>
          rw [first] at handled
          cases handled

/-- All events are handled exactly when the handler of none of them panics; handling one
leaves the mutex as sound as it was. -/
theorem handleEvents_returns_iff (few : numInterfaces.toNat ≤ 4)
    {events : List UsbRawControlEvent} :
    (∃ after, handleEvents os numInterfaces desc events w = .ok after) ↔
      ∀ event ∈ events, ¬Panics desc (w.poisoned = true) event := by
  induction events generalizing w with
  | nil => exact iff_of_true ⟨w, rfl⟩ fun event member => absurd member List.not_mem_nil
  | cons event rest ih =>
      have here : (∃ next, handleEvent os numInterfaces desc event w = .ok next) ↔
          ¬Panics desc (w.poisoned = true) event := handleEvent_returns_iff few
      rw [List.forall_mem_cons, ← here, handleEvents]
      cases first : handleEvent os numInterfaces desc event w with
      | ok next =>
          have same : (markHandled event next).poisoned = w.poisoned :=
            (handleEvent_keeps few first).1
          have later := ih (w := markHandled event next)
          rw [same] at later
          rw [← later]
          exact (and_iff_right ⟨next, rfl⟩).symm
      | error panic =>
          refine iff_of_false ?_ ?_
          · rintro ⟨after, ⟨⟩⟩
          · rintro ⟨⟨next, ⟨⟩⟩, -⟩

end Panics

/-! ## The exact condition -/

/-- `ep0_loop` returns and has handled, in order and to the end, every event fetched
before the first error that is not transient. -/
def Ep0ActsOnAll (os : Os K) (numInterfaces : UInt8) (desc : DescriptorBytes)
    (results : List (Except Errno UsbRawControlEvent)) (w : Ep0World K) : Prop :=
  ∃ after, ep0Loop os numInterfaces desc results w = .ok after ∧
    handledEvents after.log = handledEvents w.log ++ untilFatal some isTransient results

/-- `ep_out_loop` sends exactly the reports of the packets read before the first
error that is not transient, in order. -/
def EpOutSendsAll (slot : UInt8) (reads : List (Except Errno (Int32 × IoBuffer 32)))
    (out : OutputBuffers) : Prop :=
  epOutLoop slot reads out = .ok (sendAll slot (untilFatal reportOf isTransient reads) out)

/-- `ep0_loop` acts on every event unless one is fetched after an EINTR or panics its
handler. -/
theorem ep0ActsOnAll_iff {os : Os K} {numInterfaces : UInt8} (few : numInterfaces.toNat ≤ 4)
    {desc : DescriptorBytes} (results : List (Except Errno UsbRawControlEvent))
    (w : Ep0World K) : Ep0ActsOnAll os numInterfaces desc results w ↔
      ¬Lost some ep0Retries isTransient results ∧
        ∀ event ∈ untilFatal some isTransient results,
          ¬Panics desc (w.poisoned = true) event := by
  rw [← untilFatal_eq_iff fun _ => isTransient_of_ep0Retries, Ep0ActsOnAll, ep0Loop_eq]
  constructor
  · rintro ⟨after, handled, log⟩
    rw [handleEvents_log few handled, List.append_cancel_left_eq] at log
    rw [← log]
    exact ⟨rfl, (handleEvents_returns_iff few).mp ⟨after, handled⟩⟩
  · rintro ⟨same, harmless⟩
    obtain ⟨after, handled⟩ : ∃ after, handleEvents os numInterfaces desc
        (untilFatal some isTransient results) w = .ok after :=
      (handleEvents_returns_iff few).mpr harmless
    rw [same]
    exact ⟨after, handled, handleEvents_log few handled⟩

/-- `ep_out_loop` sends every report unless one is read after an EAGAIN. -/
theorem epOutSendsAll_iff (slot : UInt8) {reads : List (Except Errno (Int32 × IoBuffer 32))}
    (bounded : ∀ read, .ok read ∈ reads → read.1.toInt.toNat ≤ 32) (out : OutputBuffers) :
    EpOutSendsAll slot reads out ↔ ¬Lost reportOf epOutRetries isTransient reads := by
  rw [← untilFatal_eq_iff fun _ => isTransient_of_epOutRetries, EpOutSendsAll,
    epOutLoop_eq slot bounded, Except.ok.injEq, sendAll_inj]

/-- The loops survive transient errors exactly as far as each retries them: `ep0_loop`,
where no event panics its handler, unless it fetches one after an EINTR, `ep_out_loop`
unless it reads a report after an EAGAIN. -/
theorem backgroundLoops_survive_iff (os : Os K) {numInterfaces : UInt8}
    (few : numInterfaces.toNat ≤ 4) (desc : DescriptorBytes)
    (results : List (Except Errno UsbRawControlEvent)) (w : Ep0World K)
    (slot : UInt8) {reads : List (Except Errno (Int32 × IoBuffer 32))}
    (bounded : ∀ read, .ok read ∈ reads → read.1.toInt.toNat ≤ 32) (out : OutputBuffers) :
    (Ep0ActsOnAll os numInterfaces desc results w ↔
        ¬Lost some ep0Retries isTransient results ∧
          ∀ event ∈ untilFatal some isTransient results,
            ¬Panics desc (w.poisoned = true) event) ∧
      (EpOutSendsAll slot reads out ↔ ¬Lost reportOf epOutRetries isTransient reads) :=
  ⟨ep0ActsOnAll_iff few results w, epOutSendsAll_iff slot bounded out⟩

/-- A read of the eight bytes of a rumble packet. -/
def rumbleRead : Int32 × IoBuffer 32 :=
  (8, ⟨[0x00, 0x08, 0x00, 0x10, 0x20, 0x00, 0x00, 0x00], by decide⟩)

/-- Each loop outlives the error it retries and ends at EBADF. -/
theorem backgroundLoops_survive_retried :
    Ep0ActsOnAll .counting 1 (buildDescriptorBytes oneSlot)
        [.error eagain, .ok (.setConfiguration 1), .error 9, .ok .reset] (.new 0) ∧
      EpOutSendsAll 1 [.error eintr, .ok rumbleRead, .error 9, .ok rumbleRead] .new := by
  have bounded : ∀ read, .ok read ∈
      ([.error eintr, .ok rumbleRead, .error 9, .ok rumbleRead] :
        List (Except Errno (Int32 × IoBuffer 32))) → read.1.toInt.toNat ≤ 32 := by
    intro read member
    simp only [List.mem_cons, reduceCtorEq, Except.ok.injEq, false_or, List.not_mem_nil,
      or_false, or_self] at member
    rw [member]
    decide
  have few : (1 : UInt8).toNat ≤ 4 := by decide
  have exactly := backgroundLoops_survive_iff .counting few (buildDescriptorBytes oneSlot)
    [.error eagain, .ok (.setConfiguration 1), .error 9, .ok .reset] (.new 0) 1 bounded .new
  refine ⟨exactly.1.mpr ⟨?_, ?_⟩, exactly.2.mpr ?_⟩
  · exact (untilFatal_eq_iff fun _ => isTransient_of_ep0Retries).mp rfl
  · intro event member
    obtain rfl : event = .setConfiguration 1 := List.mem_singleton.mp member
    rintro (⟨-, poisoned⟩ | ⟨-, get, -⟩)
    · cases poisoned
    · exact absurd get.2 (by decide)
  · exact (untilFatal_eq_iff fun _ => isTransient_of_epOutRetries).mp rfl

/-- After an EINTR `ep0_loop` misses the SET_CONFIGURATION, and after an EAGAIN
`ep_out_loop` misses the rumble packet. -/
theorem not_backgroundLoops_survive_other :
    ¬Ep0ActsOnAll .counting 1 (buildDescriptorBytes oneSlot)
        [.error eintr, .ok (.setConfiguration 1)] (.new 0) ∧
      ¬EpOutSendsAll 1 [.error eagain, .ok rumbleRead] .new := by
  refine ⟨?_, ?_⟩
  · rintro ⟨after, returned, log⟩
    have stopped : ep0Loop .counting 1 (buildDescriptorBytes oneSlot)
        [.error eintr, .ok (.setConfiguration 1)] (.new 0) = .ok (.new 0) := rfl
    obtain rfl : Ep0World.new 0 = after := Except.ok.inj (stopped.symm.trans returned)
    cases log
  · intro sends
    cases sends

end X360Gadget.Transport
