import X360Gadget.Std.Mailbox
import X360Gadget.Transport.Output

/-!
# Output reports end to end

Iterations of the reader threads and polls of the caller, interleaved in any
order. Each poll stands for the `try_recv` that ends its drain. For each kind of
report the waiting cells refine a mailbox keyed by slot, and `DeliveryLaw` is
what the mailbox says about the run.
-/

namespace X360Gadget.Transport

open X360Gadget.Kernel X360Gadget.Protocol X360Gadget.Std

/-! ## Kinds of reports -/

/-- The two kinds of reports, each with buffers and a poll of its own. -/
inductive ReportKind where
  | rumble
  | led
deriving DecidableEq, Repr

namespace ReportKind

/-- Reports of a kind. -/
abbrev Report : ReportKind → Type
  | .rumble => RumbleReport
  | .led => LedReport

/-- A report of the kind as an output report. -/
def wrap : (kind : ReportKind) → kind.Report → OutputReport
  | .rumble => .rumble
  | .led => .led

/-- The report of the kind inside an output report. -/
def only? : (kind : ReportKind) → OutputReport → Option kind.Report
  | .rumble => OutputBuffers.rumble?
  | .led => OutputBuffers.led?

/-- `poll_rumble` or `poll_led`. -/
def poll : (kind : ReportKind) → OutputBuffers → UInt8 →
    Outcome OutputBuffers (Option kind.Report × OutputBuffers)
  | .rumble => OutputBuffers.pollRumble
  | .led => OutputBuffers.pollLed

/-- What a poll of the kind finds. -/
def waiting : (kind : ReportKind) → OutputBuffers → UInt8 → Option kind.Report
  | .rumble => OutputBuffers.waitingRumble
  | .led => OutputBuffers.waitingLed

/-- The report of a kind is taken out exactly where it was put in. -/
theorem only?_eq_some_iff {kind : ReportKind} {output : OutputReport} {report : kind.Report} :
    kind.only? output = some report ↔ output = kind.wrap report := by
  cases kind <;> cases output <;>
    simp [only?, wrap, OutputBuffers.rumble?, OutputBuffers.led?]

end ReportKind

/-! ## Runs -/

/-- What `EP_READ` gives a reader thread. -/
inductive OutRead where
  | packet (bytes : List UInt8) (bounded : bytes.length ≤ 32)
  | interrupted
deriving DecidableEq

/-- The result the iteration sees. -/
def OutRead.result : OutRead → Except Errno (Int32 × IoBuffer 32)
  | .packet bytes bounded => packetRead bytes bounded
  | .interrupted => .error eintr

/-- One step of a run. -/
inductive PipelineAction where
  | epOut (slot : UInt8) (read : OutRead)
  | poll (kind : ReportKind) (slot : UInt8)
deriving DecidableEq

/-- What a poll leaves behind, by returning or by panicking. -/
def afterPoll {Report : Type} :
    Outcome OutputBuffers (Option Report × OutputBuffers) → OutputBuffers
  | .ok (_, out) => out
  | .error (_, out) => out

/-- The effect of one step. -/
def pipelineStep (out : OutputBuffers) : PipelineAction → OutputBuffers
  | .epOut slot read =>
      match epOutIteration read.result with
      | .ok (.send report) => out.send slot report
      | _ => out
  | .poll kind slot => afterPoll (kind.poll out slot)

/-- The channel and the buffers after a run. -/
def pipeline (actions : List PipelineAction) : OutputBuffers :=
  actions.foldl pipelineStep OutputBuffers.new

/-! ## The law -/

/-- The step sends `report` for `slot`. -/
def Sends (action : PipelineAction) (slot : UInt8) (report : OutputReport) : Prop :=
  ∃ bytes bounded, action = .epOut slot (.packet bytes bounded) ∧
    OutputReport.fromBytes bytes = some report

/-- The report sent at position `sent` is the last of its kind for `slot` since
the poll before the one at `polled`. -/
structure LastSent (kind : ReportKind) (actions : List PipelineAction) (slot : UInt8)
    (report : kind.Report) (sent polled : Nat) : Prop where
  sends : ∃ action, actions[sent]? = some action ∧ Sends action slot (kind.wrap report)
  before : sent < polled
  newest : ∀ middle action other, sent < middle → middle < polled →
    actions[middle]? = some action → ¬Sends action slot (kind.wrap other)
  unpolled : ∀ middle, sent < middle → middle < polled →
    actions[middle]? ≠ some (.poll kind slot)

/-- What a run guarantees about one kind of report and one slot. -/
structure DeliveryLaw (kind : ReportKind) (actions : List PipelineAction) (slot : UInt8) :
    Prop where
  /-- A poll returns exactly the last report sent since the poll before. -/
  returned : ∀ polled, actions[polled]? = some (.poll kind slot) →
    ∃ result after, kind.poll (pipeline (actions.take polled)) slot = .ok (result, after) ∧
      ∀ report, result = some report ↔ ∃ sent, LastSent kind actions slot report sent polled
  /-- No report is returned twice. -/
  once : ∀ report sent first second,
    actions[first]? = some (.poll kind slot) → actions[second]? = some (.poll kind slot) →
    LastSent kind actions slot report sent first →
    LastSent kind actions slot report sent second → first = second
  /-- A report that the next poll does not return was superseded before it. -/
  superseded : ∀ report sent polled action, actions[sent]? = some action →
    Sends action slot (kind.wrap report) → actions[polled]? = some (.poll kind slot) →
    sent < polled →
    (∀ middle, sent < middle → middle < polled → actions[middle]? ≠ some (.poll kind slot)) →
    LastSent kind actions slot report sent polled ∨
      ∃ newer other action, sent < newer ∧ newer < polled ∧ actions[newer]? = some action ∧
        Sends action slot (kind.wrap other)

/-! ## Runs as mailbox operations -/

/-- The report a read makes the loop send. -/
def OutRead.report : OutRead → Option OutputReport
  | .packet bytes _ => OutputReport.fromBytes bytes
  | .interrupted => none

/-- A step as an operation on the cells of one kind. -/
def ReportKind.op (kind : ReportKind) : PipelineAction → Option (MailboxOp UInt8 kind.Report)
  | .epOut slot read => (read.report.bind kind.only?).map (.post slot)
  | .poll polled slot => if polled = kind then some (.take slot) else none

section Operations

variable {kind : ReportKind} {actions : List PipelineAction} {slot : UInt8}

/-- A step posts exactly the reports of the kind it sends. -/
theorem op_post_iff {action : PipelineAction} {report : kind.Report} :
    kind.op action = some (.post slot report) ↔ Sends action slot (kind.wrap report) := by
  constructor
  · intro posted
    cases action with
    | epOut sender read =>
        simp only [ReportKind.op, Option.map_eq_some_iff, Option.bind_eq_some_iff,
          MailboxOp.post.injEq, ReportKind.only?_eq_some_iff] at posted
        obtain ⟨_, ⟨sent, parsed, rfl⟩, rfl, rfl⟩ := posted
        cases read with
        | packet bytes bounded => exact ⟨bytes, bounded, rfl, parsed⟩
        | interrupted => cases parsed
    | poll polled interface =>
        simp only [ReportKind.op] at posted
        split at posted <;> cases posted
  · rintro ⟨bytes, bounded, rfl, parsed⟩
    have recognised : kind.only? (kind.wrap report) = some report :=
      ReportKind.only?_eq_some_iff.mpr rfl
    simp [ReportKind.op, OutRead.report, parsed, recognised]

/-- A step takes exactly at polls of the kind. -/
theorem op_take_iff {action : PipelineAction} :
    kind.op action = some (.take slot) ↔ action = .poll kind slot := by
  cases action with
  | epOut sender read =>
      simp only [ReportKind.op, Option.map_eq_some_iff, reduceCtorEq, and_false, exists_false]
  | poll polled interface =>
      simp only [ReportKind.op, PipelineAction.poll.injEq]
      split
      · next same => simp [same]
      · next different => simp [different]

/-- A poll of the kind is a take of its cell. -/
theorem takesAt_iff {polled : Nat} :
    Mailbox.TakesAt kind.op actions slot polled ↔ actions[polled]? = some (.poll kind slot) := by
  constructor
  · rintro ⟨action, found, takes⟩
    rw [found, op_take_iff.mp takes]
  · intro found
    exact ⟨_, found, op_take_iff.mpr rfl⟩

/-- The last sent report is the one the mailbox delivers. -/
theorem lastSent_iff_delivers {report : kind.Report} {sent polled : Nat}
    (isPoll : actions[polled]? = some (.poll kind slot)) :
    LastSent kind actions slot report sent polled ↔
      Mailbox.Delivers kind.op actions slot report sent polled := by
  constructor
  · rintro ⟨⟨action, found, sends⟩, before, newest, unpolled⟩
    refine ⟨⟨action, found, op_post_iff.mpr sends⟩, takesAt_iff.mpr isPoll, before, ?_⟩
    intro middle other after earlier found operation projected sameKey
    cases operation with
    | post key value =>
        obtain rfl : key = slot := sameKey
        exact newest middle other value after earlier found (op_post_iff.mp projected)
    | take key =>
        obtain rfl : key = slot := sameKey
        exact unpolled middle after earlier (takesAt_iff.mp ⟨other, found, projected⟩)
  · rintro ⟨⟨action, found, posts⟩, -, before, untouched⟩
    refine ⟨⟨action, found, op_post_iff.mp posts⟩, before, ?_, ?_⟩
    · intro middle other value after earlier found sends
      exact untouched middle other after earlier found _ (op_post_iff.mpr sends) rfl
    · intro middle after earlier found
      exact untouched middle _ after earlier found _ (op_take_iff.mpr rfl) rfl

end Operations

/-! ## The buffers refine the mailbox -/

/-- An iteration sends the report of its read, if any. -/
theorem pipelineStep_epOut (out : OutputBuffers) (slot : UInt8) (read : OutRead) :
    pipelineStep out (.epOut slot read) =
      match read.report with
      | some report => out.send slot report
      | none => out := by
  cases read with
  | packet bytes bounded =>
      simp only [pipelineStep, OutRead.result, epOutIteration_packetRead, OutRead.report]
      cases OutputReport.fromBytes bytes <;> rfl
  | interrupted => rfl

namespace ReportKind

variable {kind : ReportKind} {out : OutputBuffers} {slot : UInt8}

/-- A gadget that starts has no report waiting. -/
theorem waiting_new : kind.waiting .new slot = none := by
  cases kind with
  | rumble => exact OutputBuffers.waitingRumble_new
  | led => exact OutputBuffers.waitingLed_new

/-- A sent report replaces what waits in its own cell. -/
theorem waiting_send {sender : UInt8} {report : OutputReport} (inRange : slot.toNat < 4) :
    kind.waiting (out.send sender report) slot =
      if slot = sender then (kind.only? report).or (kind.waiting out slot)
      else kind.waiting out slot := by
  cases kind with
  | rumble => exact out.waitingRumble_send inRange
  | led => exact out.waitingLed_send inRange

/-- A poll of a slot in range returns what waits. -/
theorem poll_eq (out : OutputBuffers) (inRange : slot.toNat < 4) :
    ∃ after, kind.poll out slot = .ok (kind.waiting out slot, after) := by
  cases kind with
  | rumble => exact ⟨_, out.pollRumble_eq inRange⟩
  | led => exact ⟨_, out.pollLed_eq inRange⟩

/-- A poll empties its own cell and no other. A poll outside the slots panics
after its drain, so it loses nothing either. -/
theorem waiting_afterPoll {polled : ReportKind} {interface : UInt8} (inRange : slot.toNat < 4) :
    kind.waiting (afterPoll (polled.poll out interface)) slot =
      if polled = kind ∧ slot = interface then none else kind.waiting out slot := by
  by_cases valid : interface.toNat < 4
  · cases polled with
    | rumble =>
        simp only [poll, out.pollRumble_eq valid, afterPoll]
        cases kind <;> simp [waiting, OutputBuffers.waitingRumble_takeRumble]
    | led =>
        simp only [poll, out.pollLed_eq valid, afterPoll]
        cases kind <;> simp [waiting, OutputBuffers.waitingLed_takeLed]
  · have other : slot ≠ interface := fun same => valid (same ▸ inRange)
    have drained : afterPoll (polled.poll out interface) = out.drainOutputChannel := by
      cases polled <;>
        simp [poll, OutputBuffers.pollRumble, OutputBuffers.pollLed, valid, afterPoll]
    rw [drained]
    cases kind <;> simp [waiting, other]

/-- One step of the run is one operation on the cells. -/
theorem waiting_pipelineStep {box : Mailbox UInt8 kind.Report} {action : PipelineAction}
    (inRange : slot.toNat < 4) (agrees : box slot = kind.waiting out slot) :
    Mailbox.observeOne kind.op box action slot = kind.waiting (pipelineStep out action) slot := by
  cases action with
  | epOut sender read =>
      rw [pipelineStep_epOut]
      cases parsed : read.report with
      | none => simpa [Mailbox.observeOne, op, parsed] using agrees
      | some report =>
          simp only [waiting_send inRange]
          cases recognised : kind.only? report with
          | none => simp [Mailbox.observeOne, op, parsed, recognised, agrees]
          | some r =>
              simp [Mailbox.observeOne, op, parsed, recognised, agrees, Mailbox.apply,
                Mailbox.write]
  | poll polled interface =>
      simp only [pipelineStep, waiting_afterPoll inRange, Mailbox.observeOne, op]
      by_cases same : polled = kind
      · simp [same, agrees, Mailbox.apply, Mailbox.write]
      · simp [same, agrees]

/-- After any run the cells hold what the mailbox holds. -/
theorem observe_op (actions : List PipelineAction) (inRange : slot.toNat < 4) :
    Mailbox.observe kind.op .empty actions slot = kind.waiting (pipeline actions) slot := by
  induction actions using List.reverseRecOn with
  | nil => exact waiting_new.symm
  | append_singleton actions action ih =>
      rw [Mailbox.observe_concat, waiting_pipelineStep inRange ih, pipeline, pipeline,
        List.foldl_concat]

end ReportKind

/-- A poll of a slot returns exactly the last report sent since the poll before. -/
theorem poll_lastSent {actions : List PipelineAction} {kind : ReportKind} {slot : UInt8}
    {polled : Nat} (isPoll : actions[polled]? = some (.poll kind slot))
    (inRange : slot.toNat < 4) :
    ∃ result after, kind.poll (pipeline (actions.take polled)) slot = .ok (result, after) ∧
      ∀ report, result = some report ↔ ∃ sent, LastSent kind actions slot report sent polled := by
  obtain ⟨after, returned⟩ := kind.poll_eq (pipeline (actions.take polled)) inRange
  refine ⟨_, after, returned, ?_⟩
  intro report
  rw [← kind.observe_op _ inRange, Mailbox.observe_take_iff (takesAt_iff.mpr isPoll)]
  exact exists_congr fun sent => (lastSent_iff_delivers isPoll).symm

/-- In every run, each poll of a slot returns exactly the newest report of its
slot and kind since the poll before. -/
theorem outputPipeline_delivers (actions : List PipelineAction) (kind : ReportKind)
    {slot : UInt8} (inRange : slot.toNat < 4) : DeliveryLaw kind actions slot := by
  refine ⟨?_, ?_, ?_⟩
  · intro polled isPoll
    exact poll_lastSent isPoll inRange
  · intro report sent first second isFirst isSecond atFirst atSecond
    exact Mailbox.Delivers.taken_unique ((lastSent_iff_delivers isFirst).mp atFirst)
      ((lastSent_iff_delivers isSecond).mp atSecond)
  · intro report sent polled action found sends isPoll before next
    have firstPoll : ∀ middle, sent < middle → middle < polled →
        ¬Mailbox.TakesAt kind.op actions slot middle :=
      fun middle after earlier takes => next middle after earlier (takesAt_iff.mp takes)
    rcases Mailbox.delivers_or_superseded ⟨action, found, op_post_iff.mpr sends⟩
        (takesAt_iff.mpr isPoll) before firstPoll with
      delivers | ⟨newer, other, after, earlier, action, found, posts⟩
    · exact .inl ((lastSent_iff_delivers isPoll).mpr delivers)
    · exact .inr ⟨newer, other, action, after, earlier, found, op_post_iff.mp posts⟩

/-- A rumble packet for slot 1, an interrupted read of slot 2, then a poll. -/
theorem outputPipeline_delivers_slot_one :
    (1 : UInt8).toNat < 4 ∧
      DeliveryLaw .rumble [
        .epOut 1 (.packet [0x00, 0x08, 0x00, 0x10, 0x20, 0x00, 0x00, 0x00] (by decide)),
        .epOut 2 .interrupted, .poll .rumble 1] 1 :=
  ⟨by decide, outputPipeline_delivers _ _ (by decide)⟩

end X360Gadget.Transport
