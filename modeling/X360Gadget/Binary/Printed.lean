import X360Gadget.Binary.Demo
import X360Gadget.Session.OutputPath

/-!
# What the binary prints

The loop prints what it polls, so for each kind of report and each slot the printed
lines keep the accounts of a cell: nothing is printed twice, out of order or for
another slot, and what is missing was superseded by a newer report that was printed,
or still waits. Once a round is done with a slot nothing that came before waits.
-/

namespace X360Gadget.Binary

open X360Gadget.Descriptors X360Gadget.Kernel X360Gadget.Protocol X360Gadget.Std
open X360Gadget.Session X360Gadget.Transport WirelessReceiver

variable {K : Type}

/-- The report of a kind that a step receives from the host for a slot. -/
def arrives (kind : ReportKind) (slot : UInt8) : MainAction → Option kind.Report
  | .thread action => posted kind slot action
  | _ => none

/-- A printed report of a kind and a slot. -/
def printedOf (kind : ReportKind) (slot : UInt8) (line : UInt8 × OutputReport) :
    Option kind.Report :=
  if slot = line.1 then kind.only? line.2 else none

section Cell

variable (kind : ReportKind) (slot : UInt8)

/-- What waits for the loop. -/
def waits (s : Main K) : Option kind.Report :=
  RawGadgetTransport.waiting kind s.emulation.receiver.transport slot

/-- What the step of the loop prints of a kind and a slot. -/
def prints (s : Main K) : MainAction → Option kind.Report
  | .call =>
      match s.point with
      | .pollOutput polled =>
          handedOut RawGadgetTransport.waiting s.emulation.receiver.transport polled kind slot
      | _ => none
  | _ => none

end Cell

/-- The loop is sound and its transport open. -/
structure Main.Polls (config : ConfigDescriptorSet) (demoMode : Bool) (s : Main K) : Prop where
  sound : s.Sound config demoMode
  opened : s.emulation.gadget.closed = false

section Steps

variable {os : Os K} {config : ConfigDescriptorSet} {demoMode : Bool} {s next : Main K}
  {kind : ReportKind} {slot : UInt8}

/-- The two ways in which a call of the loop leaves the receiver. -/
inductive CallStep (os : Os K) (s next : Main K) : Prop where
  | other (operation : Operation) (notPoll : ¬IsPoll operation)
      (receiver : next.emulation.receiver = begin os s.emulation.receiver operation)
      (due : ∀ polled, s.point ≠ .pollOutput polled) (printed : next.printed = s.printed)
  | poll (polled : UInt8) (due : s.point = .pollOutput polled)
      (receiver : next.emulation.receiver = begin os s.emulation.receiver (.pollOutput polled))
      (printed : next.printed = s.printed ++
        ((nextOutput RawGadgetTransport.waiting s.emulation.receiver.transport polled).map
          fun report => (polled, report)).toList)
      (stays : next.point = s.point ∨
        nextOutput RawGadgetTransport.waiting s.emulation.receiver.transport polled = none)

/-- A call steps the receiver as its method does. -/
theorem emulation_call {before after : Emulation K} {operation : Operation}
    (called : before.step os (.call operation) = some after) :
    after.receiver = begin os before.receiver operation := by
  simp only [Emulation.step, Option.ite_none_right_eq_some, Option.some.injEq] at called
  obtain ⟨idle, rfl⟩ := called
  rfl

/-- A call of a main thread that polls is one of the steps that `CallStep` lists. -/
theorem Main.Polls.called (polls : s.Polls config demoMode) (few : config.numInterfaces.toNat ≤ 4)
    (stepped : s.call os config.numInterfaces = some next) : CallStep os s next := by
  have ready := polls.sound.ready
  unfold Main.call at stepped
  cases due : s.point with
  | sleep => simp [due] at stepped
  | panicked => simp [due] at stepped
  | setState slot =>
      simp only [due, Option.map_eq_some_iff] at stepped
      obtain ⟨after, called, rfl⟩ := stepped
      exact .other _ id (emulation_call called) (fun _ same => by cases due.symm.trans same) rfl
  | sendInput slot =>
      simp only [due, Option.map_eq_some_iff] at stepped
      obtain ⟨after, called, rfl⟩ := stepped
      exact .other _ id (emulation_call called) (fun _ same => by cases due.symm.trans same) rfl
  | pollOutput polled =>
      simp only [due, Option.map_eq_some_iff] at stepped
      obtain ⟨after, called, same⟩ := stepped
      rw [due] at ready
      have below : polled.toNat < 4 :=
        Nat.lt_of_lt_of_le (UInt8.lt_iff_toNat_lt.mp ready.1) few
      rw [WirelessReceiver.pollOutput, result_onTransport,
        (outputCells_hardware os).returned_output, if_pos below] at same
      cases found : nextOutput RawGadgetTransport.waiting s.emulation.receiver.transport polled with
      | some report =>
          rw [found] at same
          obtain rfl : _ = next := same
          exact .poll polled due (emulation_call called) (by rw [found]; rfl) (.inl due.symm)
      | none =>
          rw [found] at same
          obtain rfl : _ = next := same
          refine .poll polled due (emulation_call called) ?_ (.inr found)
          rw [found]
          exact (List.append_nil _).symm

/-- Only the calls move the transport beside its threads. -/
theorem Main.Polls.step (polls : s.Polls config demoMode) (few : config.numInterfaces.toNat ≤ 4)
    {action : MainAction}
    (stepped : (mainLoop os config.numInterfaces demoMode).step s action = some next) :
    next.Polls config demoMode := by
  refine ⟨polls.sound.step few stepped, ?_⟩
  change s.step os config.numInterfaces demoMode action = some next at stepped
  cases action with
  | wake =>
      simp only [Main.step, Option.ite_none_right_eq_some, Option.some.injEq] at stepped
      obtain ⟨-, rfl⟩ := stepped
      unfold Main.wake
      dsimp only
      split <;> exact polls.opened
  | call =>
      cases polls.called few stepped with
      | other operation notPoll receiver due printed =>
          rw [Emulation.gadget, receiver, closed_begin]
          exact polls.opened
      | poll polled due receiver printed stays =>
          rw [Emulation.gadget, receiver, closed_begin]
          exact polls.opened
  | thread action =>
      simp only [Main.step, Emulation.step, Option.map_eq_some_iff,
        Option.ite_none_right_eq_some] at stepped
      obtain ⟨after, ⟨isThread, gadget, moved, rfl⟩, rfl⟩ := stepped
      exact (closed_of_thread isThread moved).trans polls.opened

/-- A call other than a poll prints nothing. -/
theorem prints_of_not_poll (due : ∀ polled, s.point ≠ .pollOutput polled) :
    prints kind slot s .call = none := by
  cases point : s.point with
  | pollOutput polled => exact absurd point (due polled)
  | _ => simp only [prints, point]

/-- A poll empties the cell of what it hands out and no other. -/
theorem waits_polled {polled : UInt8} (inRange : slot.toNat < 4)
    (receiver : next.emulation.receiver = begin os s.emulation.receiver (.pollOutput polled)) :
    waits kind slot next =
      if (handedOut RawGadgetTransport.waiting s.emulation.receiver.transport polled kind
        slot).isSome then none else waits kind slot s := by
  have moved : (begin os s.emulation.receiver (.pollOutput polled)).transport =
      ((hardware os).pollOutput polled).stateAfter s.emulation.receiver.transport := by
    change (perform (hardware os) s.emulation.receiver (.pollOutput polled)).transport = _
    rw [perform, WirelessReceiver.pollOutput, stateAfter_onTransport]
  rw [waits, receiver, moved]
  exact cell_of_pollOutput (outputCells_hardware os) inRange

/-- The cell of a kind and a slot keeps the newest report of the host until the loop
prints it. -/
theorem keepsNewest (few : config.numInterfaces.toNat ≤ 4) (inRange : slot.toNat < 4) :
    (mainLoop os config.numInterfaces demoMode).KeepsNewest (Main.Polls config demoMode)
      (waits kind slot) (fun _ => arrives kind slot) (prints kind slot) := by
  refine ⟨?_, ?_⟩
  · intro s action next value polls stepped printed
    cases action with
    | wake => cases printed
    | thread action => cases printed
    | call =>
        cases polls.called few stepped with
        | other operation notPoll receiver due same =>
            rw [prints_of_not_poll due] at printed
            cases printed
        | poll polled due receiver same stays =>
            simp only [prints, due] at printed
            refine ⟨handedOut_eq_some printed, ?_, rfl⟩
            rw [waits_polled inRange receiver, printed]
            rfl
  · intro s action next polls stepped silent
    cases action with
    | wake =>
        change s.step os config.numInterfaces demoMode .wake = some next at stepped
        simp only [Main.step, Option.ite_none_right_eq_some, Option.some.injEq] at stepped
        obtain ⟨-, rfl⟩ := stepped
        unfold Main.wake
        dsimp only
        split <;> rfl
    | thread action =>
        change s.step os config.numInterfaces demoMode (.thread action) = some next at stepped
        simp only [Main.step, Emulation.step, Option.map_eq_some_iff,
          Option.ite_none_right_eq_some] at stepped
        obtain ⟨after, ⟨isThread, gadget, moved, rfl⟩, rfl⟩ := stepped
        exact waiting_output_of_thread isThread polls.opened inRange moved
    | call =>
        cases polls.called few stepped with
        | other operation notPoll receiver due same =>
            rw [waits, RawGadgetTransport.waiting, receiver, output_begin notPoll]
            rfl
        | poll polled due receiver same stays =>
            simp only [prints, due] at silent
            rw [waits_polled inRange receiver, silent]
            rfl

/-- What the loop prints it appends to the printed lines. -/
theorem printed_step (few : config.numInterfaces.toNat ≤ 4) {action : MainAction}
    (polls : s.Polls config demoMode)
    (stepped : (mainLoop os config.numInterfaces demoMode).step s action = some next) :
    next.printed.filterMap (printedOf kind slot) =
      s.printed.filterMap (printedOf kind slot) ++ (prints kind slot s action).toList := by
  cases action with
  | wake =>
      change s.step os config.numInterfaces demoMode .wake = some next at stepped
      simp only [Main.step, Option.ite_none_right_eq_some, Option.some.injEq] at stepped
      obtain ⟨-, rfl⟩ := stepped
      unfold Main.wake
      dsimp only
      split <;> exact (List.append_nil _).symm
  | thread action =>
      change s.step os config.numInterfaces demoMode (.thread action) = some next at stepped
      simp only [Main.step, Option.map_eq_some_iff] at stepped
      obtain ⟨after, -, rfl⟩ := stepped
      exact (List.append_nil _).symm
  | call =>
      cases polls.called few stepped with
      | other operation notPoll receiver due same =>
          rw [prints_of_not_poll due, same]
          exact (List.append_nil _).symm
      | poll polled due receiver same stays =>
          rw [same, List.filterMap_append]
          simp only [prints, due, handedOut]
          congr 1
          cases nextOutput RawGadgetTransport.waiting s.emulation.receiver.transport polled with
          | none => split <;> rfl
          | some report =>
              change List.filterMap (printedOf kind slot) [(polled, report)] = _
              rw [List.filterMap_cons, printedOf]
              dsimp only
              by_cases mine : slot = polled
              · rw [if_pos mine, if_pos mine, Option.bind_some]
                cases kind.only? report <;> rfl
              · rw [if_neg mine, if_neg mine]
                rfl

/-- When the loop is done with a slot nothing waits there. -/
theorem waits_of_done (inRange : slot.toNat < 4) (called : CallStep os s next)
    (due : s.point = .pollOutput slot) (done : next.point ≠ .pollOutput slot) :
    waits kind slot next = none := by
  cases called with
  | other operation notPoll receiver notDue printed => exact absurd due (notDue slot)
  | poll polled isDue receiver printed stays =>
      obtain rfl : slot = polled := Point.pollOutput.inj (due.symm.trans isDue)
      rcases stays with same | nothing
      · exact absurd (same.trans due) done
      · have empty : waits kind slot s = none := by
          rw [nextOutput] at nothing
          cases rumble : RawGadgetTransport.waiting .rumble s.emulation.receiver.transport slot with
          | some r =>
              rw [rumble] at nothing
              cases nothing
          | none =>
              rw [rumble] at nothing
              cases kind with
              | rumble => exact rumble
              | led => exact Option.map_eq_none_iff.mp nothing
        rw [waits_polled inRange receiver, empty]
        split <;> rfl

end Steps

/-! ## Runs -/

/-- In every run, for each kind of report and each slot, the printed lines keep the
accounts of a cell; and once a round is done with the slot, everything received for
it before is printed or was superseded by a newer report that was. -/
theorem printed_of_run {os : Os K} {config : ConfigDescriptorSet} {demoMode : Bool}
    (few : config.numInterfaces.toNat ≤ 4) {fd : Int32} {kernel : K} {actions : List MainAction}
    {s : Main K} (runs : (mainLoop os config.numInterfaces demoMode).run (.new config fd kernel)
      actions = some s) (kind : ReportKind) {slot : UInt8} (inRange : slot.toNat < 4) :
    ∃ pending takings,
      Account (actions.filterMap (arrives kind slot)) (s.printed.filterMap (printedOf kind slot))
          pending takings ∧
        ∀ earlier before after, earlier ++ [.call] <+: actions →
          (mainLoop os config.numInterfaces demoMode).run (.new config fd kernel) earlier =
              some before → before.point = .pollOutput slot →
            before.call os config.numInterfaces = some after → after.point ≠ .pollOutput slot →
              earlier.filterMap (arrives kind slot) <+: settled takings := by
  have start : (Main.new config fd kernel : Main K).Polls config demoMode :=
    ⟨sound_new fd kernel, rfl⟩
  have preserved : ∀ {s action next}, s.Polls config demoMode →
      (mainLoop os config.numInterfaces demoMode).step s action = some next →
        next.Polls config demoMode := fun polls stepped => polls.step few stepped
  obtain ⟨pending, takings, account, -, cleared⟩ := Machine.account_of_run
    (keepsNewest few inRange) preserved start ReportKind.waiting_new runs
  have printed : s.printed.filterMap (printedOf kind slot) = _ :=
    (mainLoop os config.numInterfaces demoMode).run_emits (prints kind slot) _ preserved
      (fun s => s.printed.filterMap (printedOf kind slot)) (printed_step few) start runs
  rw [Machine.image_of_run _ runs] at account
  refine ⟨pending, takings, ?_, ?_⟩
  · rw [printed]
    exact account
  · intro earlier before after isPrefix reached due called done
    have polls : before.Polls config demoMode :=
      (mainLoop os config.numInterfaces demoMode).run_invariant _ preserved start reached
    have reachedAfter : (mainLoop os config.numInterfaces demoMode).run (.new config fd kernel)
        (earlier ++ [.call]) = some after :=
      (Machine.run_concat_eq_some _).mpr ⟨before, reached, called⟩
    have settles := cleared _ after isPrefix reachedAfter
      (waits_of_done inRange (polls.called few called) due done)
    rw [Machine.image_of_run _ reachedAfter, List.filterMap_append] at settles
    exact (List.prefix_append _ _).trans settles

/-- The host configures the device and rumbles, and the first round prints it. -/
def rumbleRound : List MainAction :=
  [.thread (.fetch (.ok (.setConfiguration 1))),
    .thread (.epOut ⟨0, 1⟩ (packetRead [0, 8, 0, 200, 100, 0, 0, 0] (by decide))),
    .wake, .call, .thread .epWrite, .call, .call]

/-- A round in which the host sends one rumble packet prints that packet. -/
theorem printed_of_run_rumbleRound : ∃ s,
    (mainLoop .counting oneSlot.numInterfaces false).run (.new oneSlot 3 0) rumbleRound = some s ∧
      s.printed = [(0, .rumble ⟨200, 100⟩)] ∧ ∃ pending takings,
        Account [⟨200, 100⟩] (s.printed.filterMap (printedOf .rumble 0)) pending takings := by
  have runs : (mainLoop .counting oneSlot.numInterfaces false).run (.new oneSlot 3 0)
      rumbleRound = some _ := rfl
  obtain ⟨pending, takings, account, -⟩ :=
    printed_of_run (by decide) runs .rumble (by decide : (0 : UInt8).toNat < 4)
  exact ⟨_, runs, rfl, pending, takings, account⟩

end X360Gadget.Binary
