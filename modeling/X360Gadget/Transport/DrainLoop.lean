import X360Gadget.Std.Machine
import X360Gadget.Transport.OutputPipeline

/-!
# Draining a slot until `None`

The loop that calls `poll_output` for one slot until it returns `None`, one
`try_recv` at a time, with reports arriving between any two of its steps.
`drainStep_of_step` says everything a step can do; a call that nothing
interrupts is the two polls.
-/

namespace X360Gadget.Transport

open X360Gadget.Protocol X360Gadget.Std

/-! ## The loop -/

namespace OutputBuffers

/-- `try_recv`: the oldest report of the channel. -/
def tryRecv (self : OutputBuffers) : Option ((UInt8 × OutputReport) × OutputBuffers) :=
  match self.outputRx with
  | [] => none
  | item :: rest => some (item, { self with outputRx := rest })

end OutputBuffers

namespace ReportKind

/-- `buf[interface].take()` at the end of a poll. -/
def takeBuf : (kind : ReportKind) → OutputBuffers → UInt8 →
    Outcome OutputBuffers (Option kind.Report × OutputBuffers)
  | .rumble, out, interface =>
      match out.rumbleBuf[interface.toNat]? with
      | some content => .ok (content,
          { out with rumbleBuf := out.rumbleBuf.setIfInBounds interface.toNat none })
      | none => .error (.outOfBounds, out)
  | .led, out, interface =>
      match out.ledBuf[interface.toNat]? with
      | some content => .ok (content,
          { out with ledBuf := out.ledBuf.setIfInBounds interface.toNat none })
      | none => .error (.outOfBounds, out)

end ReportKind

/-- Where the loop stands. -/
inductive DrainPhase where
  /-- About to call `poll_output`. -/
  | calling
  /-- In the drain of `poll_rumble` or of `poll_led`. -/
  | draining (kind : ReportKind)
  /-- `poll_output` returned `None`. -/
  | finished
  | panicked
deriving DecidableEq, Repr

/-- The buffers, where the loop stands and what it was returned so far. -/
structure DrainLoop where
  output : OutputBuffers
  phase : DrainPhase
  returned : List OutputReport
deriving DecidableEq, Repr

/-- The loop before its first call. -/
def DrainLoop.start (output : OutputBuffers) : DrainLoop := ⟨output, .calling, []⟩

/-- `poll_output` tries LED after rumble and then gives up. -/
def DrainPhase.afterNone : ReportKind → DrainPhase
  | .rumble => .draining .led
  | .led => .finished

/-- A reader thread sends a report, or the loop takes its next step. -/
inductive DrainAction where
  | arrive (sender : UInt8) (report : OutputReport)
  | advance
deriving DecidableEq, Repr

/-- The loop after the poll of a kind. -/
def DrainLoop.polled (returned : List OutputReport) (kind : ReportKind) :
    Outcome OutputBuffers (Option kind.Report × OutputBuffers) → DrainLoop
  | .ok (some report, output) => ⟨output, .calling, returned ++ [kind.wrap report]⟩
  | .ok (none, output) => ⟨output, .afterNone kind, returned⟩
  | .error (_, output) => ⟨output, .panicked, returned⟩

/-- The drain found the channel empty: the poll takes its buffer. -/
def DrainLoop.take (slot : UInt8) (loop : DrainLoop) (kind : ReportKind) : DrainLoop :=
  .polled loop.returned kind (kind.takeBuf loop.output slot)

/-- One step of the loop itself. -/
def DrainLoop.advance (slot : UInt8) (loop : DrainLoop) : Option DrainLoop :=
  match loop.phase with
  | .calling => some { loop with phase := .draining .rumble }
  | .draining kind =>
      match loop.output.tryRecv with
      | some (item, output) => some { loop with output := output.receive item }
      | none => some (loop.take slot kind)
  | .finished | .panicked => none

/-- Arrivals and steps of the loop for one slot, until it is over. -/
def DrainLoop.step (slot : UInt8) (loop : DrainLoop) : DrainAction → Option DrainLoop
  | .advance => loop.advance slot
  | .arrive sender report =>
      match loop.phase with
      | .finished | .panicked => none
      | _ => some { loop with output := loop.output.send sender report }

/-- The loop for one slot as a machine. -/
def drainLoop (slot : UInt8) : Machine DrainLoop DrainAction where
  step := DrainLoop.step slot

/-! ## What a step does -/

namespace ReportKind

/-- A poll is a drain and a take. -/
theorem poll_eq_takeBuf (kind : ReportKind) (out : OutputBuffers) (slot : UInt8) :
    kind.poll out slot = kind.takeBuf out.drainOutputChannel slot := by
  by_cases inRange : slot.toNat < 4
  · cases kind <;>
      simp [poll, takeBuf, OutputBuffers.pollRumble, OutputBuffers.pollLed, inRange]
  · cases kind <;>
      simp [poll, takeBuf, OutputBuffers.pollRumble, OutputBuffers.pollLed, inRange]

/-- Behind an empty channel the take is the whole poll. -/
theorem takeBuf_of_empty {kind : ReportKind} {out : OutputBuffers} {slot : UInt8}
    (empty : out.outputRx = []) : kind.takeBuf out slot = kind.poll out slot := by
  have drained : out.drainOutputChannel = out := by
    rw [OutputBuffers.drainOutputChannel_eq, empty]
    cases out
    cases empty
    rfl
  rw [poll_eq_takeBuf, drained]

end ReportKind

namespace OutputBuffers

/-- There is nothing to receive exactly when the channel is empty. -/
theorem tryRecv_eq_none {out : OutputBuffers} : out.tryRecv = none ↔ out.outputRx = [] := by
  unfold tryRecv
  cases out.outputRx <;> simp

/-- Receiving the oldest report moves it from the channel to its buffer. -/
theorem tryRecv_eq_some {out rest : OutputBuffers} {item : UInt8 × OutputReport}
    (received : out.tryRecv = some (item, rest)) :
    out.outputRx = item :: (rest.receive item).outputRx ∧
      ∀ kind slot, ReportKind.waiting kind (rest.receive item) slot = kind.waiting out slot := by
  unfold tryRecv at received
  cases queue : out.outputRx with
  | nil =>
      rw [queue] at received
      cases received
  | cons head tail =>
      rw [queue] at received
      cases received
      rw [receive_eq]
      refine ⟨rfl, ?_⟩
      intro kind slot
      cases kind <;>
        simp only [ReportKind.waiting, waitingRumble, waitingLed, overlay, queue, List.foldl_cons]

end OutputBuffers

/-- The steps of the loop for a slot in range, with what they find. -/
inductive DrainStep (slot : UInt8) (loop : DrainLoop) : DrainAction → DrainLoop → Prop where
  | arrive (sender : UInt8) (report : OutputReport) :
      DrainStep slot loop (.arrive sender report)
        { loop with output := loop.output.send sender report }
  | call (calling : loop.phase = .calling) :
      DrainStep slot loop .advance { loop with phase := .draining .rumble }
  | receive (kind : ReportKind) (item : UInt8 × OutputReport) (output : OutputBuffers)
      (draining : loop.phase = .draining kind)
      (received : loop.output.outputRx = item :: output.outputRx)
      (kept : ∀ other index, ReportKind.waiting other output index =
        other.waiting loop.output index) :
      DrainStep slot loop .advance { loop with output }
  | found (kind : ReportKind) (report : kind.Report) (draining : loop.phase = .draining kind)
      (empty : loop.output.outputRx = [])
      (waits : kind.waiting loop.output slot = some report) :
      DrainStep slot loop .advance ⟨afterPoll (kind.poll loop.output slot), .calling,
        loop.returned ++ [kind.wrap report]⟩
  | missed (kind : ReportKind) (draining : loop.phase = .draining kind)
      (empty : loop.output.outputRx = []) (nothing : kind.waiting loop.output slot = none) :
      DrainStep slot loop .advance ⟨afterPoll (kind.poll loop.output slot), .afterNone kind,
        loop.returned⟩

section Steps

variable {slot : UInt8} {loop next : DrainLoop} {action : DrainAction}

/-- The end of a drain returns what waits. -/
theorem drainStep_take {kind : ReportKind} (inRange : slot.toNat < 4)
    (draining : loop.phase = .draining kind) (empty : loop.output.outputRx = []) :
    DrainStep slot loop .advance (loop.take slot kind) := by
  obtain ⟨after, returned⟩ := kind.poll_eq loop.output inRange
  have left : afterPoll (kind.poll loop.output slot) = after := by rw [returned]; rfl
  rw [DrainLoop.take, ReportKind.takeBuf_of_empty empty, returned, DrainLoop.polled.eq_def]
  cases waits : kind.waiting loop.output slot with
  | some report =>
      rw [← left]
      exact .found kind report draining empty waits
  | none =>
      rw [← left]
      exact .missed kind draining empty waits

/-- Every step is one of these, and the loop never panics. -/
theorem drainStep_of_step (inRange : slot.toNat < 4)
    (stepped : (drainLoop slot).step loop action = some next) :
    DrainStep slot loop action next := by
  change loop.step slot action = some next at stepped
  cases action with
  | arrive sender report =>
      cases phase : loop.phase <;>
        simp only [DrainLoop.step, phase, reduceCtorEq, Option.some.injEq] at stepped
      all_goals
        rw [← stepped, ← phase]
        exact .arrive sender report
  | advance =>
      cases phase : loop.phase with
      | calling =>
          simp only [DrainLoop.step, DrainLoop.advance, phase, Option.some.injEq] at stepped
          rw [← stepped]
          exact .call phase
      | draining kind =>
          cases received : loop.output.tryRecv with
          | some pair =>
              obtain ⟨item, output⟩ := pair
              obtain ⟨shape, kept⟩ := OutputBuffers.tryRecv_eq_some received
              simp only [DrainLoop.step, DrainLoop.advance, phase, received,
                Option.some.injEq] at stepped
              rw [← stepped, ← phase]
              exact .receive kind item _ phase shape kept
          | none =>
              simp only [DrainLoop.step, DrainLoop.advance, phase, received,
                Option.some.injEq] at stepped
              rw [← stepped]
              exact drainStep_take inRange phase (OutputBuffers.tryRecv_eq_none.mp received)
      | finished => simp only [DrainLoop.step, DrainLoop.advance, phase, reduceCtorEq] at stepped
      | panicked => simp only [DrainLoop.step, DrainLoop.advance, phase, reduceCtorEq] at stepped

end Steps

/-! ## Calls that nothing interrupts -/

/-- Steps of the loop alone lead from one state to another. -/
def DrainLoop.Reaches (slot : UInt8) (loop last : DrainLoop) : Prop :=
  ∃ steps, (drainLoop slot).run loop (List.replicate steps .advance) = some last

/-- Reaching composes. -/
theorem DrainLoop.Reaches.trans {slot : UInt8} {loop middle last : DrainLoop}
    (first : loop.Reaches slot middle) (second : middle.Reaches slot last) :
    loop.Reaches slot last := by
  obtain ⟨steps, runs⟩ := first
  obtain ⟨more, runsOn⟩ := second
  refine ⟨steps + more, ?_⟩
  rw [List.replicate_add, Machine.run_append, runs, Option.bind_some, runsOn]

/-- One step of the loop. -/
theorem DrainLoop.Reaches.single {slot : UInt8} {loop next : DrainLoop}
    (stepped : (drainLoop slot).step loop .advance = some next) : loop.Reaches slot next := by
  refine ⟨1, ?_⟩
  rw [List.replicate_one, Machine.run_cons, stepped]
  rfl

/-- Received one at a time, the reports of the channel are drained. -/
theorem run_drain (slot : UInt8) (output : OutputBuffers) (kind : ReportKind)
    (returned : List OutputReport) :
    (drainLoop slot).run ⟨output, .draining kind, returned⟩
        (List.replicate output.outputRx.length .advance) =
      some ⟨output.drainOutputChannel, .draining kind, returned⟩ := by
  induction queue : output.outputRx generalizing output with
  | nil =>
      rw [OutputBuffers.drainOutputChannel_eq, queue]
      cases output
      cases queue
      rfl
  | cons item rest ih =>
      have received : output.tryRecv = some (item, { output with outputRx := rest }) := by
        rw [OutputBuffers.tryRecv, queue]
      have stepped : (drainLoop slot).step ⟨output, .draining kind, returned⟩ .advance =
          some ⟨OutputBuffers.receive { output with outputRx := rest } item, .draining kind,
            returned⟩ := by
        simp only [drainLoop, DrainLoop.step, DrainLoop.advance, received]
      rw [List.length_cons, List.replicate_succ, Machine.run_cons, stepped, Option.bind_some,
        ih _ (by rw [OutputBuffers.receive_eq]), OutputBuffers.drainOutputChannel_eq,
        OutputBuffers.drainOutputChannel_eq, OutputBuffers.receive_eq, queue]
      rfl

/-- Undisturbed, the steps of a poll are the poll. -/
theorem reaches_poll (slot : UInt8) (output : OutputBuffers) (kind : ReportKind)
    (returned : List OutputReport) :
    DrainLoop.Reaches slot ⟨output, .draining kind, returned⟩
      (.polled returned kind (kind.poll output slot)) := by
  have drained : output.drainOutputChannel.tryRecv = none := by
    rw [OutputBuffers.drainOutputChannel_eq]
    rfl
  refine .trans ⟨_, run_drain slot output kind returned⟩ (.single ?_)
  rw [ReportKind.poll_eq_takeBuf]
  simp only [drainLoop, DrainLoop.step, DrainLoop.advance, drained, DrainLoop.take]

end X360Gadget.Transport
