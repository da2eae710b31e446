import X360Gadget.Transport.DrainAccounts

/-!
# The law of the drain loop

Arrivals bound the returns and the steps of the loop, and without arrivals it
returns what was pending in order. `DrainLaw` collects this with the accounts:
complete for its own slot, harmless to the others.
-/

namespace X360Gadget.Transport

open X360Gadget.Protocol X360Gadget.Std

/-! ## How many returns and how many steps -/

/-- The reports that wait for a slot, in the order `poll_output` returns them. -/
def OutputBuffers.pendingFor (self : OutputBuffers) (slot : UInt8) : List OutputReport :=
  ((ReportKind.waiting .rumble self slot).map OutputReport.rumble).toList ++
    ((ReportKind.waiting .led self slot).map OutputReport.led).toList

/-- The action is an arrival for the slot. -/
def DrainAction.arrivesFor (slot : UInt8) : DrainAction → Bool
  | .arrive sender _ => sender = slot
  | .advance => false

/-- The action is an arrival for any slot. -/
def DrainAction.isArrival : DrainAction → Bool
  | .arrive _ _ => true
  | .advance => false

@[simp] theorem isArrival_arrive (sender : UInt8) (report : OutputReport) :
    (DrainAction.arrive sender report).isArrival = true := rfl

@[simp] theorem isArrival_advance : DrainAction.advance.isArrival = false := rfl

/-- The steps left to the end of a call that finds nothing. -/
def DrainPhase.rank : DrainPhase → Nat
  | .calling => 3
  | .draining .rumble => 2
  | .draining .led => 1
  | .finished | .panicked => 0

/-- A bound on the steps left while nothing arrives. -/
def DrainLoop.rank (slot : UInt8) (loop : DrainLoop) : Nat :=
  loop.output.outputRx.length + 3 * (loop.output.pendingFor slot).length + loop.phase.rank

section Bounds

variable {slot : UInt8} {loop next : DrainLoop} {action : DrainAction}

/-- An arrival adds at most one pending report, to its own slot. -/
theorem length_pendingFor_send (output : OutputBuffers) (sender : UInt8) (report : OutputReport)
    (inRange : slot.toNat < 4) : ((output.send sender report).pendingFor slot).length ≤
      (output.pendingFor slot).length + if sender = slot then 1 else 0 := by
  simp only [OutputBuffers.pendingFor, ReportKind.waiting_arrive inRange, ReportKind.arrival,
    ReportKind.cellReport, eq_comm (a := slot)]
  by_cases same : sender = slot
  · cases report <;> simp only [same, if_true, ReportKind.only?, OutputBuffers.rumble?,
      OutputBuffers.led?, Option.some_or, Option.none_or, List.length_append, Option.map_some,
      Option.toList_some, List.length_singleton]
    · omega
    · omega
  · simp [same]

/-- The pending reports depend on the cells of the slot alone. -/
theorem pendingFor_congr {output other : OutputBuffers}
    (same : ∀ kind, ReportKind.waiting kind output slot = kind.waiting other slot) :
    output.pendingFor slot = other.pendingFor slot := by
  rw [OutputBuffers.pendingFor, OutputBuffers.pendingFor, same .rumble, same .led]

/-- At most one report of each kind waits. -/
theorem length_pendingFor_le (output : OutputBuffers) (slot : UInt8) :
    (output.pendingFor slot).length ≤ 2 := by
  rw [OutputBuffers.pendingFor]
  cases ReportKind.waiting .rumble output slot <;>
    cases ReportKind.waiting .led output slot <;> simp

/-- A poll that finds a report takes one of the pending. -/
theorem length_pendingFor_found {kind : ReportKind} {output : OutputBuffers} {report : kind.Report}
    (inRange : slot.toNat < 4) (waits : kind.waiting output slot = some report) :
    ((afterPoll (kind.poll output slot)).pendingFor slot).length + 1 =
      (output.pendingFor slot).length := by
  cases kind <;>
    simp [OutputBuffers.pendingFor, ReportKind.waiting_afterPoll inRange, waits, Nat.add_comm]

/-- A poll that finds nothing leaves the pending reports. -/
theorem pendingFor_missed {kind : ReportKind} {output : OutputBuffers}
    (inRange : slot.toNat < 4) (nothing : kind.waiting output slot = none) :
    (afterPoll (kind.poll output slot)).pendingFor slot = output.pendingFor slot := by
  refine pendingFor_congr fun other => ?_
  rw [ReportKind.waiting_afterPoll inRange]
  split
  · next both =>
      obtain ⟨rfl, -⟩ := both
      exact nothing.symm
  · rfl

/-- A return takes from the pending reports, and only arrivals add to them. -/
theorem DrainStep.length_returned_le (stepped : DrainStep slot loop action next)
    (inRange : slot.toNat < 4) :
    next.returned.length + (next.output.pendingFor slot).length ≤
      loop.returned.length + (loop.output.pendingFor slot).length +
        if action.arrivesFor slot then 1 else 0 := by
  cases stepped with
  | arrive sender report =>
      have added := length_pendingFor_send loop.output sender report inRange
      simp only [DrainAction.arrivesFor, decide_eq_true_eq]
      omega
  | call calling => simp [DrainAction.arrivesFor]
  | receive kind item output draining received kept =>
      simp [DrainAction.arrivesFor, pendingFor_congr fun other => kept other slot]
  | found kind report draining empty waits =>
      have taken := length_pendingFor_found inRange waits
      simp only [List.length_append, List.length_singleton]
      omega
  | missed kind draining empty nothing =>
      simp [DrainAction.arrivesFor, pendingFor_missed inRange nothing]

/-- A poll leaves the channel empty. -/
theorem outputRx_afterPoll (kind : ReportKind) (output : OutputBuffers) (slot : UInt8) :
    (afterPoll (kind.poll output slot)).outputRx = [] := by
  by_cases inRange : slot.toNat < 4 <;> cases kind <;>
    simp [ReportKind.poll, OutputBuffers.pollRumble, OutputBuffers.pollLed, inRange, afterPoll,
      OutputBuffers.drainOutputChannel_eq]

/-- Every step of the loop lowers its rank. -/
theorem DrainStep.rank_lt (stepped : DrainStep slot loop .advance next)
    (inRange : slot.toNat < 4) : next.rank slot < loop.rank slot := by
  cases stepped with
  | call calling => simp [DrainLoop.rank, calling, DrainPhase.rank]
  | receive kind item output draining received kept =>
      simp only [DrainLoop.rank, received, List.length_cons,
        pendingFor_congr fun other => kept other slot]
      omega
  | found kind report draining empty waits =>
      have taken := length_pendingFor_found inRange waits
      have positive : 1 ≤ loop.phase.rank := by
        rw [draining]
        cases kind <;> decide
      have calling : DrainPhase.rank .calling = 3 := rfl
      simp only [DrainLoop.rank, outputRx_afterPoll, empty, calling]
      omega
  | missed kind draining empty nothing =>
      simp only [DrainLoop.rank, outputRx_afterPoll, empty, pendingFor_missed inRange nothing,
        draining]
      cases kind <;> simp [DrainPhase.rank, DrainPhase.afterNone]

/-- An arrival raises the rank by one step to receive it and three for the call
that may return it. -/
theorem DrainStep.rank_arrive {sender : UInt8} {report : OutputReport}
    (stepped : DrainStep slot loop (.arrive sender report) next) (inRange : slot.toNat < 4) :
    next.rank slot ≤ loop.rank slot + 4 := by
  cases stepped with
  | arrive =>
      have added := length_pendingFor_send loop.output sender report inRange
      have queued : (loop.output.send sender report).outputRx.length =
          loop.output.outputRx.length + 1 := by
        simp [OutputBuffers.send]
      simp only [DrainLoop.rank, queued]
      split at added <;> omega

/-- A run returns no more than was pending and what arrived for the slot. -/
theorem length_returned_of_run {actions : List DrainAction} (inRange : slot.toNat < 4)
    (runs : (drainLoop slot).run loop actions = some next) :
    next.returned.length + (next.output.pendingFor slot).length ≤
      loop.returned.length + (loop.output.pendingFor slot).length +
        actions.countP (·.arrivesFor slot) := by
  induction actions using List.reverseRecOn generalizing next with
  | nil =>
      cases runs
      simp
  | append_singleton actions action ih =>
      obtain ⟨middle, before, stepped⟩ := (Machine.run_concat_eq_some _).mp runs
      have here := (drainStep_of_step inRange stepped).length_returned_le inRange
      have earlier := ih before
      simp only [List.countP_append, List.countP_singleton]
      omega

/-- A run takes no more steps than its rank and its arrivals allow. -/
theorem count_advance_of_run {actions : List DrainAction} (inRange : slot.toNat < 4)
    (runs : (drainLoop slot).run loop actions = some next) :
    actions.count .advance + next.rank slot ≤
      loop.rank slot + 4 * actions.countP (·.isArrival) := by
  induction actions using List.reverseRecOn generalizing next with
  | nil =>
      cases runs
      simp
  | append_singleton actions action ih =>
      obtain ⟨middle, before, stepped⟩ := (Machine.run_concat_eq_some _).mp runs
      have here := drainStep_of_step inRange stepped
      have earlier := ih before
      cases action with
      | arrive sender report =>
          have raised := here.rank_arrive inRange
          simp only [List.count_append, List.countP_append, List.count_singleton,
            List.countP_singleton, isArrival_arrive, beq_iff_eq, reduceCtorEq, if_true,
            if_false]
          omega
      | advance =>
          have lowered := here.rank_lt inRange
          simp only [List.count_append, List.countP_append, List.count_singleton,
            List.countP_singleton, isArrival_advance, beq_self_eq_true, Bool.false_eq_true,
            if_true, if_false]
          omega

/-- The loop never panics on a slot in range. -/
theorem DrainStep.not_panicked (stepped : DrainStep slot loop action next)
    (running : loop.phase ≠ .panicked) : next.phase ≠ .panicked := by
  cases stepped with
  | arrive sender report => exact running
  | call calling => exact DrainPhase.noConfusion
  | receive kind item output draining received kept => exact running
  | found kind report draining empty waits => exact DrainPhase.noConfusion
  | missed kind draining empty nothing => cases kind <;> exact DrainPhase.noConfusion

/-- A loop that has not ended can take its next step. -/
theorem advance_of_running (slot : UInt8) (running : loop.phase ≠ .panicked) :
    loop.phase = .finished ∨ ∃ next, (drainLoop slot).step loop .advance = some next := by
  have enabled : loop.phase = .finished ∨ (loop.advance slot).isSome := by
    cases phase : loop.phase with
    | calling => simp [DrainLoop.advance, phase]
    | draining kind =>
        cases received : loop.output.tryRecv <;> simp [DrainLoop.advance, phase, received]
    | finished => exact .inl rfl
    | panicked => exact absurd phase running
  exact enabled.imp_right Option.isSome_iff_exists.mp

/-- Once nothing more arrives the loop ends. -/
theorem finishes_of_running (inRange : slot.toNat < 4) (running : loop.phase ≠ .panicked) :
    ∃ last, loop.Reaches slot last ∧ last.phase = .finished := by
  induction rank : loop.rank slot using Nat.strong_induction_on generalizing loop with
  | _ rank ih =>
      rcases advance_of_running slot running with finished | ⟨next, stepped⟩
      · exact ⟨loop, ⟨0, rfl⟩, finished⟩
      · have step := drainStep_of_step inRange stepped
        obtain ⟨last, reached, finished⟩ :=
          ih _ (rank ▸ step.rank_lt inRange) (step.not_panicked running) rfl
        exact ⟨last, .trans (.single stepped) reached, finished⟩

/-- A loop on a slot of the table does not panic. -/
theorem not_panicked_of_run {actions : List DrainAction} (inRange : slot.toNat < 4)
    (running : loop.phase ≠ .panicked) (runs : (drainLoop slot).run loop actions = some next) :
    next.phase ≠ .panicked :=
  Machine.run_invariant (drainLoop slot) (fun loop => loop.phase ≠ .panicked)
    (fun running stepped => (drainStep_of_step inRange stepped).not_panicked running) running runs

end Bounds

/-! ## Without arrivals -/

/-- While nothing arrives the loop moves the pending reports to the returned
ones in order, and a poll that has passed leaves nothing behind. -/
structure Undisturbed (slot : UInt8) (total : List OutputReport) (loop : DrainLoop) : Prop where
  balance : loop.returned ++ loop.output.pendingFor slot = total
  passed : ∀ kind, loop.phase.Passed kind → ReportKind.waiting kind loop.output slot = none

section Quiet

variable {slot : UInt8} {loop next : DrainLoop} {total : List OutputReport}

/-- With nothing left of a passed rumble poll, the report found is the first of
the pending. -/
theorem pendingFor_found {kind : ReportKind} {output : OutputBuffers} {report : kind.Report}
    (inRange : slot.toNat < 4) (waits : kind.waiting output slot = some report)
    (first : kind = .led → ReportKind.waiting .rumble output slot = none) :
    output.pendingFor slot =
      kind.wrap report :: (afterPoll (kind.poll output slot)).pendingFor slot := by
  cases kind with
  | rumble =>
      simp [OutputBuffers.pendingFor, ReportKind.waiting_afterPoll inRange, waits, ReportKind.wrap]
  | led =>
      simp [OutputBuffers.pendingFor, ReportKind.waiting_afterPoll inRange, waits, first rfl,
        ReportKind.wrap]

/-- A step of the loop takes one report from the channel, and nothing comes in. -/
theorem Undisturbed.step (undisturbed : Undisturbed slot total loop) (inRange : slot.toNat < 4)
    (stepped : DrainStep slot loop .advance next) : Undisturbed slot total next := by
  cases stepped with
  | call calling => exact ⟨undisturbed.balance, fun kind passed => passed.elim⟩
  | receive kind item output draining received kept =>
      refine ⟨?_, ?_⟩
      · rw [pendingFor_congr fun other => kept other slot]
        exact undisturbed.balance
      · intro other passed
        rw [kept other slot]
        exact undisturbed.passed other passed
  | found kind report draining empty waits =>
      refine ⟨?_, fun other passed => passed.elim⟩
      rw [← undisturbed.balance, pendingFor_found inRange waits, List.append_assoc]
      · rfl
      · rintro rfl
        exact undisturbed.passed .rumble (by rw [draining]; rfl)
  | missed kind draining empty nothing =>
      refine ⟨?_, ?_⟩
      · rw [pendingFor_missed inRange nothing]
        exact undisturbed.balance
      · intro other passed
        rw [ReportKind.waiting_afterPoll inRange]
        split
        · rfl
        · next different =>
            refine undisturbed.passed other ?_
            rw [draining]
            cases kind <;> cases other
            · exact absurd ⟨rfl, rfl⟩ different
            · cases passed
            · rfl
            · exact absurd ⟨rfl, rfl⟩ different

/-- A run without sends keeps what the channel and the buffers hold together. -/
theorem undisturbed_of_run {actions : List DrainAction} (undisturbed : Undisturbed slot total loop)
    (inRange : slot.toNat < 4) (quiet : ∀ action ∈ actions, action = .advance)
    (runs : (drainLoop slot).run loop actions = some next) : Undisturbed slot total next := by
  induction actions generalizing loop with
  | nil =>
      cases runs
      exact undisturbed
  | cons action rest ih =>
      rw [Machine.run_cons, Option.bind_eq_some_iff] at runs
      obtain ⟨middle, stepped, remaining⟩ := runs
      have later : ∀ action ∈ rest, action = .advance :=
        fun other member => quiet other (List.mem_cons_of_mem action member)
      rw [quiet action List.mem_cons_self] at stepped
      exact ih (undisturbed.step inRange (drainStep_of_step inRange stepped)) later remaining

/-- A finished loop that was not disturbed returned everything pending. -/
theorem Undisturbed.returned_eq (undisturbed : Undisturbed slot total loop)
    (finished : loop.phase = .finished) : loop.returned = total := by
  have nothing : ∀ kind, ReportKind.waiting kind loop.output slot = none := by
    intro kind
    refine undisturbed.passed kind ?_
    rw [finished]
    trivial
  rw [← undisturbed.balance, OutputBuffers.pendingFor, nothing .rumble, nothing .led]
  simp

end Quiet

/-! ## The law of the loop -/

/-- What the loop guarantees of every run for its slot. -/
structure DrainLaw (slot : UInt8) (output : OutputBuffers) (actions : List DrainAction)
    (finish : DrainLoop) : Prop where
  /-- At most two reports are returned besides the arrivals for the slot. -/
  bounded : finish.returned.length ≤ 2 + actions.countP (·.arrivesFor slot)
  /-- The steps taken are bounded, and once nothing more arrives the loop ends. -/
  steps : actions.count .advance ≤
    output.outputRx.length + 9 + 4 * actions.countP (·.isArrival)
  ends : ∃ last, finish.Reaches slot last ∧ last.phase = .finished
  /-- What was returned of a kind is what was taken of the reports sent to that
  cell of the slot, each after the reports it superseded. -/
  returned : ∀ kind : ReportKind, ∃ takings pending, Account (kind.posted slot output actions)
    (kind.among finish.returned) pending takings
  /-- When the loop is over, every report sent to the slot before its last call is
  returned or superseded. -/
  complete : finish.phase = .finished → ∀ before during called, actions = before ++ during →
    (drainLoop slot).run (.start output) before = some called → called.phase = .calling →
    ∀ kind : ReportKind, ∃ takings pending, Account (kind.posted slot output actions)
      (kind.among finish.returned) pending takings ∧
        kind.posted slot output before <+: settled takings
  /-- The cells of the other slots hold the newest report sent to them. -/
  others : ∀ (kind : ReportKind) other, other.toNat < 4 → other ≠ slot →
    kind.waiting finish.output other = (kind.posted other output actions).getLast?
  /-- With no arrivals exactly the newest rumble report and the newest LED report
  sent are returned. -/
  quiet : (∀ action ∈ actions, action = .advance) → finish.phase = .finished →
    finish.returned = ((ReportKind.posted .rumble slot output []).getLast?.map .rumble).toList ++
      ((ReportKind.posted .led slot output []).getLast?.map .led).toList

section Law

variable {slot : UInt8} {output : OutputBuffers} {actions : List DrainAction} {finish : DrainLoop}

/-- The account at the start, with nothing taken. -/
theorem cellAccount_start (kind : ReportKind) (inRange : slot.toNat < 4) :
    CellAccount kind slot (kind.posted slot output []) [] (.start output) []
      (kind.posted slot output []) :=
  ⟨.start _, kind.waiting_eq_newest output inRange, .inl List.nil_prefix⟩

/-- The account of any run. -/
theorem cellAccount_of_run (kind : ReportKind) (inRange : slot.toNat < 4)
    (runs : (drainLoop slot).run (.start output) actions = some finish) :
    ∃ takings pending,
      CellAccount kind slot (kind.posted slot output actions) [] finish takings pending := by
  have whole := kind.posted_append slot output [] actions
  rw [List.nil_append] at whole
  rw [whole]
  exact (cellAccount_start kind inRange).run List.nil_prefix inRange runs

/-- Every report sent before some call began is settled by the end of the loop. -/
theorem settled_of_finished (kind : ReportKind) (inRange : slot.toNat < 4)
    (finished : finish.phase = .finished) {before during : List DrainAction} {called : DrainLoop}
    (whole : actions = before ++ during)
    (runs : (drainLoop slot).run (.start output) actions = some finish)
    (runsBefore : (drainLoop slot).run (.start output) before = some called)
    (calling : called.phase = .calling) :
    ∃ takings pending, Account (kind.posted slot output actions) (kind.among finish.returned)
      pending takings ∧ kind.posted slot output before <+: settled takings := by
  obtain ⟨earlier, waiting, cell⟩ := cellAccount_of_run kind inRange runsBefore
  rw [whole, Machine.run_append, runsBefore, Option.bind_some] at runs
  -- From the call on, what was sent before it is what has to be settled.
  have began : CellAccount kind slot (kind.posted slot output before)
      (kind.posted slot output before) called earlier waiting := by
    refine ⟨cell.account, cell.waits, .inr ?_⟩
    rw [calling]
    exact not_false
  obtain ⟨takings, pending, ended⟩ := began.run (List.prefix_refl _) inRange runs
  rw [whole, kind.posted_append]
  refine ⟨takings, pending, ended.account, ended.passed.resolve_right fun open' => open' ?_⟩
  rw [finished]
  trivial

/-- Every run of the drain loop for a slot of the transport, with reports arriving
between any two of its steps, satisfies the law. -/
theorem drainLoop_law (inRange : slot.toNat < 4)
    (runs : (drainLoop slot).run (.start output) actions = some finish) :
    DrainLaw slot output actions finish := by
  have newest : ∀ (kind : ReportKind) other, other.toNat < 4 →
      kind.waiting output other = (kind.posted other output []).getLast? :=
    fun kind other valid => kind.waiting_eq_newest output valid
  have running : (DrainLoop.start output).phase ≠ .panicked := DrainPhase.noConfusion
  have pending := length_pendingFor_le output slot
  constructor
  case bounded =>
    have balance := length_returned_of_run inRange runs
    simp only [DrainLoop.start, List.length_nil] at balance
    omega
  case steps =>
    have taken := count_advance_of_run inRange runs
    have start : (DrainLoop.start output).rank slot =
        output.outputRx.length + 3 * (output.pendingFor slot).length + 3 := rfl
    omega
  case ends => exact finishes_of_running inRange (not_panicked_of_run inRange running runs)
  case returned =>
    intro kind
    obtain ⟨takings, pending, cell⟩ := cellAccount_of_run kind inRange runs
    exact ⟨takings, pending, cell.account⟩
  case complete =>
    intro finished before during called whole runsBefore calling kind
    exact settled_of_finished kind inRange finished whole runs runsBefore calling
  case others =>
    intro kind other valid different
    have whole := kind.posted_append other output [] actions
    rw [List.nil_append] at whole
    rw [whole]
    exact waiting_other_of_run inRange valid different (newest kind other valid) runs
  case quiet =>
    intro alone finished
    have start : Undisturbed slot (output.pendingFor slot) (.start output) :=
      ⟨rfl, fun kind passed => passed.elim⟩
    rw [(undisturbed_of_run start inRange alone runs).returned_eq finished,
      OutputBuffers.pendingFor, newest .rumble slot inRange, newest .led slot inRange]

end Law

/-- An LED report for slot 1 arrives after the rumble report was returned, and one
for slot 2 stays in its buffer. -/
theorem drainLoop_law_slot_one :
    ∃ finish, (drainLoop 1).run
        (.start { OutputBuffers.new with
          outputRx := [(1, .rumble ⟨1, 1⟩), (2, .led ⟨.allOff⟩), (1, .rumble ⟨9, 9⟩)] })
        [.advance, .advance, .advance, .advance, .advance, .arrive 1 (.led ⟨.allBlink⟩), .advance,
          .advance, .advance, .advance, .advance, .advance, .advance] = some finish ∧
      finish.phase = .finished ∧ finish.returned = [.rumble ⟨9, 9⟩, .led ⟨.allBlink⟩] ∧
      DrainLaw 1
        { OutputBuffers.new with
          outputRx := [(1, .rumble ⟨1, 1⟩), (2, .led ⟨.allOff⟩), (1, .rumble ⟨9, 9⟩)] }
        [.advance, .advance, .advance, .advance, .advance, .arrive 1 (.led ⟨.allBlink⟩), .advance,
          .advance, .advance, .advance, .advance, .advance, .advance] finish := by
  refine ⟨_, rfl, ?_, ?_, drainLoop_law (by decide) rfl⟩
  · rfl
  · rfl

end X360Gadget.Transport
