import X360Gadget.Session.InputPath
import X360Gadget.Std.Ledger
import X360Gadget.Transport.OutputDelivery

/-!
# From the host's packets to a poll

What waits for a kind and a slot of the hardware is a cell: a packet of that kind
that a reader of the slot receives fills it, polls empty it, and no other step of any
thread or call touches it. These are the laws of one step that accounts of whole
runs start from.
-/

namespace X360Gadget.Session

open X360Gadget.Descriptors X360Gadget.Kernel X360Gadget.Protocol X360Gadget.Std
open X360Gadget.Transport WirelessReceiver

variable {K : Type}

/-! ## Packets -/

/-- The packet that a reader of the slot received; a length past the buffer is no packet. -/
def received (slot : UInt8) : GadgetAction → Option (List UInt8)
  | .epOut reader (.ok (n, data)) =>
      if slot = reader.slot ∧ n.toInt.toNat ≤ 32 then some (data.bytes.take n.toInt.toNat)
      else none
  | _ => none

/-- The report of a kind that a packet is. -/
def parsedAs (kind : ReportKind) (packet : List UInt8) : Option kind.Report :=
  (OutputReport.fromBytes packet).bind kind.only?

/-- What a step of a thread leaves for a poll of the kind and slot. -/
def posted (kind : ReportKind) (slot : UInt8) (action : GadgetAction) : Option kind.Report :=
  (received slot action).bind (parsedAs kind)

/-! ## Steps of the threads -/

section Threads

variable {os : Os K} {numInterfaces : UInt8} {desc : DescriptorBytes} {g next : Gadget K}
  {action : GadgetAction} {kind : ReportKind} {slot : UInt8}

/-- Only the caller closes the transport. -/
theorem closed_of_thread (isThread : IsBackground action ∨ action = .epWrite)
    (stepped : (Transport.gadget os numInterfaces desc).step g action = some next) :
    next.closed = g.closed := by
  cases gadget_step stepped with
  | fetch result alive =>
      unfold stepFetch
      split <;> rfl
  | epOut reader read live =>
      unfold stepEpOut
      split
      · split <;> rfl
      · rfl
      · rfl
      · rfl
  | epWrite write pending => rfl
  | _ => rcases isThread with isBackground | other <;> contradiction

/-- A step of a thread leaves what it received, or what waited before. -/
theorem waiting_output_of_thread (isThread : IsBackground action ∨ action = .epWrite)
    (opened : g.closed = false) (inRange : slot.toNat < 4)
    (stepped : (Transport.gadget os numInterfaces desc).step g action = some next) :
    kind.waiting next.output slot = (posted kind slot action).or (kind.waiting g.output slot) := by
  obtain ⟨-, output⟩ := output_step stepped ((closed_of_thread isThread stepped).trans opened)
  rw [output]
  cases action with
  | fetch result => rfl
  | epWrite => rfl
  | epOut reader read =>
      match read with
      | .error errno => rfl
      | .ok (n, data) =>
          by_cases fits : n.toInt.toNat ≤ 32
          · rw [GadgetAction.output?, packet?, if_pos fits]
            dsimp only [Option.map_some, Option.elim_some]
            rw [pipelineStep_epOut, posted, received, OutRead.report]
            cases parsed : OutputReport.fromBytes (data.bytes.take n.toInt.toNat) with
            | none =>
                dsimp only
                split
                · rw [Option.bind_some, parsedAs, parsed, Option.bind_none, Option.none_or]
                · rfl
            | some report =>
                dsimp only
                rw [ReportKind.waiting_send inRange]
                by_cases same : slot = reader.slot
                · rw [if_pos same, if_pos ⟨same, fits⟩, Option.bind_some, parsedAs, parsed,
                    Option.bind_some]
                · rw [if_neg same, if_neg fun both => same both.1, Option.bind_none, Option.none_or]
          · rw [GadgetAction.output?, packet?, if_neg fits, posted, received,
              if_neg fun both => fits both.2]
            rfl
  | _ => rcases isThread with isBackground | other <;> contradiction

end Threads

/-! ## Calls of the owner -/

section Polls

variable {T E : Type} {transport : Transport T E} {cell : Cells T} {self : T} {polled slot : UInt8}
  {kind : ReportKind}

/-- What a `poll_output` hands out of a cell. -/
def handedOut (cell : Cells T) (self : T) (polled : UInt8) (kind : ReportKind) (slot : UInt8) :
    Option kind.Report :=
  if slot = polled then (nextOutput cell self polled).bind kind.only? else none

/-- Only what is in the cell is handed out. -/
theorem handedOut_eq_some {value : kind.Report}
    (handed : handedOut cell self polled kind slot = some value) :
    cell kind self slot = some value := by
  unfold handedOut at handed
  split at handed
  · next same =>
      subst same
      rw [nextOutput] at handed
      cases kind with
      | rumble =>
          cases waiting : cell .rumble self slot with
          | some r =>
              rw [waiting] at handed
              exact handed
          | none =>
              rw [waiting] at handed
              cases found : cell .led self slot <;> rw [found] at handed <;> cases handed
      | led =>
          cases waiting : cell .rumble self slot with
          | some r =>
              rw [waiting] at handed
              cases handed
          | none =>
              rw [waiting] at handed
              cases found : cell .led self slot with
              | none =>
                  rw [found] at handed
                  cases handed
              | some l =>
                  rw [found] at handed
                  exact handed
  · cases handed

/-- A cell that hands its report out is empty afterwards; no other cell changes. -/
theorem cell_of_pollOutput (cells : OutputCells transport cell) (inRange : slot.toNat < 4) :
    cell kind ((transport.pollOutput polled).stateAfter self) slot =
      if (handedOut cell self polled kind slot).isSome then none else cell kind self slot := by
  rw [cells.taken_output inRange, handedOut]
  by_cases same : slot = polled
  · subst same
    rw [if_pos rfl, nextOutput]
    cases kind with
    | rumble =>
        cases waiting : cell .rumble self slot with
        | some r => simp [ReportKind.only?, OutputBuffers.rumble?]
        | none => cases cell .led self slot <;> simp
    | led =>
        cases cell .rumble self slot with
        | some r => simp [ReportKind.only?, OutputBuffers.led?]
        | none => cases found : cell .led self slot <;> simp [ReportKind.only?, OutputBuffers.led?]
  · rw [if_neg fun both => same both.1, if_neg same]
    rfl

end Polls

section Calls

variable {os : Os K} {self : WirelessReceiver (RawGadgetTransport K)} {operation : Operation}

/-- A lookup changes neither the output buffers nor whether the descriptor is closed. -/
theorem output_stepLookup (g : Gadget K) (slot : UInt8) (report : InputReport) :
    (stepLookup g slot report).output = g.output ∧
      (stepLookup g slot report).closed = g.closed := by
  unfold stepLookup
  split <;> exact ⟨rfl, rfl⟩

/-- A call that does not poll leaves the output side alone. -/
theorem output_begin (notPoll : ¬IsPoll operation) :
    (begin os self operation).transport.gadget.output = self.transport.gadget.output := by
  cases operation with
  | setState slot state => rfl
  | sendInput slot =>
      cases found : self.slot slot with
      | none => simp only [begin, found]
      | some held =>
          simp only [begin, found, withGadget]
          exact (output_stepLookup _ _ _).1
  | sendRawInput slot data =>
      cases parsed : InputReport.fromBytes data with
      | none => simp only [begin, parsed]
      | some report =>
          simp only [begin, parsed, withGadget]
          exact (output_stepLookup _ _ _).1
  | _ => exact absurd trivial notPoll

/-- No call closes the transport. -/
theorem closed_begin :
    (begin os self operation).transport.gadget.closed = self.transport.gadget.closed := by
  by_cases polls : IsPoll operation
  · obtain ⟨output, same⟩ : OutputOnly self.transport (begin os self operation).transport :=
      outputOnly_begin polls
    rw [same]
  cases operation with
  | setState slot state => rfl
  | sendInput slot =>
      cases found : self.slot slot with
      | none => simp only [begin, found]
      | some held =>
          simp only [begin, found, withGadget]
          exact (output_stepLookup _ _ _).2
  | sendRawInput slot data =>
      cases parsed : InputReport.fromBytes data with
      | none => simp only [begin, parsed]
      | some report =>
          simp only [begin, parsed, withGadget]
          exact (output_stepLookup _ _ _).2
  | _ => exact absurd trivial polls

end Calls

end X360Gadget.Session
