import X360Gadget.Session.Hardware
import X360Gadget.Session.Mock

/-!
# The mock against the hardware

The mock fills its cells when a report arrives. The hardware leaves an arrival in
the channel until some poll drains it, which no poll can tell: both read cells,
and their cells agree.
-/

namespace X360Gadget.Session

open X360Gadget.Descriptors X360Gadget.Kernel X360Gadget.Protocol X360Gadget.Std
open X360Gadget.Transport

variable {K : Type}

/-- Two transports started empty hold the same reports. -/
theorem cellsAgree_new (config : ConfigDescriptorSet) (fd : Int32) (kernel : K) :
    CellsAgree MockTransport.pending RawGadgetTransport.waiting .new
      (.start config fd kernel) := by
  intro kind slot _
  rw [MockTransport.pending_new]
  exact ReportKind.waiting_new.symm

/-- Started empty and given the same arrivals, mock and hardware return the same
at every poll. -/
theorem mock_faithful (os : Os K) (config : ConfigDescriptorSet) (fd : Int32) (kernel : K)
    (steps : List OutputStep) (inRange : ∀ step ∈ steps, step.slot.toNat < 4) :
    results (mock Errno) (fun self slot report => (self.queueOutput slot report).finalState) .new
        steps =
      results (hardware os) RawGadgetTransport.send (.start config fd kernel) steps :=
  results_eq (outputCells_mock Errno) (outputCells_hardware os) MockTransport.arrives_queueOutput
    RawGadgetTransport.arrives_send (cellsAgree_new config fd kernel) inRange

/-- Two slots, an overwritten report, and both reports of one slot drained. -/
theorem mock_faithful_two_slots :
    ∃ config, ConfigDescriptorSet.new 2 = .ok config ∧
      results (mock Errno) (fun self slot report => (self.queueOutput slot report).finalState) .new
          [.arrive 0 (.rumble ⟨255, 0⟩), .arrive 1 (.led ⟨.p1On⟩), .arrive 1 (.led ⟨.p2On⟩),
            .poll .led 1, .arrive 0 (.led ⟨.rotate⟩), .pollOutput 0, .pollOutput 0] =
        results (hardware .counting) RawGadgetTransport.send (.start config 3 0)
          [.arrive 0 (.rumble ⟨255, 0⟩), .arrive 1 (.led ⟨.p1On⟩), .arrive 1 (.led ⟨.p2On⟩),
            .poll .led 1, .arrive 0 (.led ⟨.rotate⟩), .pollOutput 0, .pollOutput 0] :=
  ⟨_, rfl, mock_faithful .counting _ 3 0 _ (by decide)⟩

end X360Gadget.Session
