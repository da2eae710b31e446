import X360Gadget.Std.Takings
import X360Gadget.Transport.DrainLoop

/-!
# Where the reports of a drain loop go

`posted` lists everything ever sent to a cell. The loop keeps an account of the
two cells of its own slot, in which every report is returned, superseded or
waiting, and leaves in the cells of the other slots the newest report sent.
-/

namespace X360Gadget.Transport

open X360Gadget.Protocol X360Gadget.Std

/-! ## What a cell was sent -/

namespace ReportKind

/-- The report of the kind for the slot in an item of the channel. -/
def cellReport (kind : ReportKind) (slot : UInt8) : UInt8 × OutputReport → Option kind.Report
  | (sender, report) => if slot = sender then kind.only? report else none

/-- What the slot's buffer of the kind holds. -/
def buffered : (kind : ReportKind) → OutputBuffers → UInt8 → Option kind.Report
  | .rumble, out, slot => out.rumbleBuf[slot.toNat]?.join
  | .led, out, slot => out.ledBuf[slot.toNat]?.join

/-- The report of the kind that an action sends for the slot. -/
def arrival (kind : ReportKind) (slot : UInt8) : DrainAction → Option kind.Report
  | .arrive sender report => kind.cellReport slot (sender, report)
  | .advance => none

@[simp] theorem arrival_advance (kind : ReportKind) (slot : UInt8) :
    kind.arrival slot .advance = none := rfl

/-- Everything of the kind sent for the slot, oldest first: what the buffers and
the channel held at the start and what arrived since. -/
def posted (kind : ReportKind) (slot : UInt8) (output : OutputBuffers)
    (actions : List DrainAction) : List kind.Report :=
  (kind.buffered output slot).toList ++ output.outputRx.filterMap (kind.cellReport slot) ++
    actions.filterMap (kind.arrival slot)

/-- The reports of the kind among those returned. -/
def among (kind : ReportKind) (returned : List OutputReport) : List kind.Report :=
  returned.filterMap kind.only?

/-- What is posted by a history and what arrives after it. -/
theorem posted_append (kind : ReportKind) (slot : UInt8) (output : OutputBuffers)
    (before during : List DrainAction) : kind.posted slot output (before ++ during) =
      kind.posted slot output before ++ during.filterMap (kind.arrival slot) := by
  simp only [posted, List.filterMap_append, List.append_assoc]

/-- The channel over a buffer shows the newest of both. -/
theorem overlay_eq_getLast? {Report : Type} (only : OutputReport → Option Report)
    {queue : List (UInt8 × OutputReport)} {buf : Vector (Option Report) 4} {slot : UInt8}
    (inRange : slot.toNat < 4) : OutputBuffers.overlay only queue buf slot =
      (buf[slot.toNat]?.join.toList ++ queue.filterMap fun item =>
        if slot = item.1 then only item.2 else none).getLast? := by
  induction queue using List.reverseRecOn with
  | nil =>
      rw [OutputBuffers.overlay_nil, List.filterMap_nil, List.append_nil]
      cases buf[slot.toNat]?.join <;> rfl
  | append_singleton queue item ih =>
      obtain ⟨sender, report⟩ := item
      rw [OutputBuffers.overlay_concat only inRange, List.filterMap_append, ← List.append_assoc,
        List.getLast?_append, ← ih]
      by_cases same : slot = sender
      · rw [if_pos same]
        cases parsed : only report <;> simp [same, parsed]
      · simp [same]

/-- A poll finds the newest report sent to its cell. -/
theorem waiting_eq_newest (kind : ReportKind) (output : OutputBuffers) {slot : UInt8}
    (inRange : slot.toNat < 4) :
    kind.waiting output slot = (kind.posted slot output []).getLast? := by
  rw [posted, List.filterMap_nil, List.append_nil]
  cases kind with
  | rumble => exact overlay_eq_getLast? OutputBuffers.rumble? inRange
  | led => exact overlay_eq_getLast? OutputBuffers.led? inRange

/-- A send posts to its own cell and no other. -/
theorem waiting_arrive {kind : ReportKind} {output : OutputBuffers} {slot sender : UInt8}
    {report : OutputReport} (inRange : slot.toNat < 4) :
    kind.waiting (output.send sender report) slot =
      (kind.arrival slot (.arrive sender report)).or (kind.waiting output slot) := by
  rw [waiting_send inRange, arrival, cellReport]
  split <;> rfl

/-- One more report of a kind is among those of its kind. -/
theorem among_concat_same (kind : ReportKind) (returned : List OutputReport)
    (report : kind.Report) :
    kind.among (returned ++ [kind.wrap report]) = kind.among returned ++ [report] := by
  have recognised : kind.only? (kind.wrap report) = some report := only?_eq_some_iff.mpr rfl
  simp [among, recognised]

/-- One more report of the other kind is not among them. -/
theorem among_concat_other {kind other : ReportKind} (different : other ≠ kind)
    (returned : List OutputReport) (report : other.Report) :
    kind.among (returned ++ [other.wrap report]) = kind.among returned := by
  have foreign : kind.only? (other.wrap report) = none := by
    cases kind <;> cases other
    · exact absurd rfl different
    · rfl
    · rfl
    · exact absurd rfl different
  simp [among, foreign]

end ReportKind

/-! ## The account of a cell -/

/-- The poll of the kind has found nothing in the call under way. -/
def DrainPhase.Passed (kind : ReportKind) : DrainPhase → Prop
  | .draining .led => kind = .rumble
  | .finished => True
  | _ => False

/-- The account of the loop's cell of a kind. Once the poll of the kind has
passed, everything in `old` is settled. -/
structure CellAccount (kind : ReportKind) (slot : UInt8) (posted old : List kind.Report)
    (loop : DrainLoop) (takings : List (Taking kind.Report)) (pending : List kind.Report) :
    Prop where
  account : Account posted (kind.among loop.returned) pending takings
  waits : kind.waiting loop.output slot = pending.getLast?
  passed : old <+: settled takings ∨ ¬loop.phase.Passed kind

section Account

variable {kind : ReportKind} {slot : UInt8} {loop next : DrainLoop} {action : DrainAction}
  {posted old pending : List kind.Report} {takings : List (Taking kind.Report)}

/-- A poll that finds a report settles everything posted. -/
theorem CellAccount.found {report : kind.Report}
    (cell : CellAccount kind slot posted old loop takings pending) (isOld : old <+: posted)
    (inRange : slot.toNat < 4) (waits : kind.waiting loop.output slot = some report) :
    CellAccount kind slot posted old
      ⟨afterPoll (kind.poll loop.output slot), .calling, loop.returned ++ [kind.wrap report]⟩
      (takings ++ [⟨pending.dropLast, report⟩]) [] := by
  have account := cell.account.take (cell.waits.symm.trans waits)
  refine ⟨?_, ?_, .inl ?_⟩
  · rw [ReportKind.among_concat_same]
    exact account
  · rw [ReportKind.waiting_afterPoll inRange, if_pos ⟨rfl, rfl⟩]
    rfl
  · rw [account.settled_eq]
    exact isOld

/-- A poll that finds nothing has everything settled before it. -/
theorem CellAccount.missed (cell : CellAccount kind slot posted old loop takings pending)
    (isOld : old <+: posted) (inRange : slot.toNat < 4)
    (nothing : kind.waiting loop.output slot = none) :
    CellAccount kind slot posted old
      ⟨afterPoll (kind.poll loop.output slot), .afterNone kind, loop.returned⟩ takings [] := by
  have empty : pending = [] := List.getLast?_eq_none_iff.mp (cell.waits.symm.trans nothing)
  have account := cell.account
  rw [empty] at account
  refine ⟨account, ?_, .inl ?_⟩
  · rw [ReportKind.waiting_afterPoll inRange, if_pos ⟨rfl, rfl⟩]
    rfl
  · rw [account.settled_eq]
    exact isOld

/-- One step of the loop keeps the account. -/
theorem CellAccount.step (cell : CellAccount kind slot posted old loop takings pending)
    (isOld : old <+: posted) (inRange : slot.toNat < 4)
    (stepped : DrainStep slot loop action next) : ∃ takings pending,
      CellAccount kind slot (posted ++ (kind.arrival slot action).toList) old next
        takings pending := by
  cases stepped with
  | arrive sender report =>
      refine ⟨takings, _, cell.account.post _, ?_, cell.passed⟩
      rw [ReportKind.waiting_arrive inRange, List.getLast?_append, ← cell.waits]
      cases kind.arrival slot (.arrive sender report) <;> rfl
  | call calling =>
      rw [ReportKind.arrival_advance, Option.toList_none, List.append_nil]
      exact ⟨takings, pending, cell.account, cell.waits, .inr not_false⟩
  | receive polled item output draining received kept =>
      rw [ReportKind.arrival_advance, Option.toList_none, List.append_nil]
      exact ⟨takings, pending, cell.account, (kept kind slot).trans cell.waits, cell.passed⟩
  | found polled report draining empty waits =>
      rw [ReportKind.arrival_advance, Option.toList_none, List.append_nil]
      by_cases same : polled = kind
      · subst same
        exact ⟨_, _, cell.found isOld inRange waits⟩
      · refine ⟨takings, pending, ?_, ?_, .inr not_false⟩
        · rw [ReportKind.among_concat_other same]
          exact cell.account
        · rw [ReportKind.waiting_afterPoll inRange, if_neg fun both => same both.1]
          exact cell.waits
  | missed polled draining empty nothing =>
      rw [ReportKind.arrival_advance, Option.toList_none, List.append_nil]
      by_cases same : polled = kind
      · subst same
        exact ⟨_, _, cell.missed isOld inRange nothing⟩
      · refine ⟨takings, pending, cell.account, ?_, ?_⟩
        · rw [ReportKind.waiting_afterPoll inRange, if_neg fun both => same both.1]
          exact cell.waits
        · refine cell.passed.imp_right fun before after => before ?_
          -- Only the LED poll follows the other kind's, and then rumble has passed.
          rw [draining]
          cases polled <;> cases kind
          · exact absurd rfl same
          · cases after
          · rfl
          · exact absurd rfl same

/-- A run of the loop keeps the account. -/
theorem CellAccount.run {actions : List DrainAction}
    (cell : CellAccount kind slot posted old loop takings pending) (isOld : old <+: posted)
    (inRange : slot.toNat < 4) (runs : (drainLoop slot).run loop actions = some next) :
    ∃ takings pending, CellAccount kind slot (posted ++ actions.filterMap (kind.arrival slot)) old
      next takings pending := by
  induction actions generalizing loop posted takings pending with
  | nil =>
      cases runs
      exact ⟨takings, pending, by simpa using cell⟩
  | cons action rest ih =>
      rw [Machine.run_cons, Option.bind_eq_some_iff] at runs
      obtain ⟨middle, stepped, remaining⟩ := runs
      obtain ⟨_, _, here⟩ := cell.step isOld inRange (drainStep_of_step inRange stepped)
      obtain ⟨takings, pending, later⟩ := ih here (isOld.trans (List.prefix_append _ _)) remaining
      refine ⟨takings, pending, ?_⟩
      have whole : posted ++ (action :: rest).filterMap (kind.arrival slot) =
          posted ++ (kind.arrival slot action).toList ++ rest.filterMap (kind.arrival slot) := by
        rw [List.append_assoc]
        cases arrived : kind.arrival slot action <;> simp [arrived]
      rw [whole]
      exact later

end Account

/-! ## The other slots -/

section OtherSlots

variable {slot other : UInt8} {loop next : DrainLoop}

/-- A step changes the cell of another slot only by an arrival for it. -/
theorem DrainStep.waiting_other {action : DrainAction} (stepped : DrainStep slot loop action next)
    (kind : ReportKind) (inRange : other.toNat < 4) (different : other ≠ slot) :
    kind.waiting next.output other =
      (kind.arrival other action).or (kind.waiting loop.output other) := by
  cases stepped with
  | arrive sender report => exact ReportKind.waiting_arrive inRange
  | call calling => rfl
  | receive polled item output draining received kept => exact kept kind other
  | found polled report draining empty waits =>
      rw [ReportKind.waiting_afterPoll inRange, if_neg fun both => different both.2]
      rfl
  | missed polled draining empty nothing =>
      rw [ReportKind.waiting_afterPoll inRange, if_neg fun both => different both.2]
      rfl

/-- The cell of another slot holds the newest report sent to it. -/
theorem waiting_other_of_run {actions : List DrainAction} {kind : ReportKind}
    {sent : List kind.Report} (valid : slot.toNat < 4) (inRange : other.toNat < 4)
    (different : other ≠ slot) (newest : kind.waiting loop.output other = sent.getLast?)
    (runs : (drainLoop slot).run loop actions = some next) :
    kind.waiting next.output other =
      (sent ++ actions.filterMap (kind.arrival other)).getLast? := by
  induction actions using List.reverseRecOn generalizing next with
  | nil =>
      cases runs
      rw [newest, List.filterMap_nil, List.append_nil]
  | append_singleton actions action ih =>
      obtain ⟨middle, before, stepped⟩ := (Machine.run_concat_eq_some _).mp runs
      rw [(drainStep_of_step valid stepped).waiting_other kind inRange different, ih before,
        List.filterMap_append, ← List.append_assoc, List.getLast?_append]
      cases arrived : kind.arrival other action <;> simp [arrived]

end OtherSlots

end X360Gadget.Transport
