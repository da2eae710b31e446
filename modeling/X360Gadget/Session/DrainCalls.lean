import X360Gadget.Session.Hardware
import X360Gadget.Transport.DrainLoop

/-!
# The drain loop on the hardware

An uninterrupted `poll_output` of the hardware transport is a run of the drain
loop: it ends the loop with `None` or returns one report and lets it call again.
-/

namespace X360Gadget.Session

open X360Gadget.Kernel X360Gadget.Protocol X360Gadget.Std X360Gadget.Transport
open RawGadgetTransport

variable {K : Type}

/-- Where a loop over `poll_output` stands after a call. -/
def loopAfter (returned : List OutputReport) :
    Outcome (RawGadgetTransport K) (Except Errno (Option OutputReport) × RawGadgetTransport K) →
      DrainLoop
  | .ok (.ok (some report), self) => ⟨self.gadget.output, .calling, returned ++ [report]⟩
  | .ok (.ok none, self) => ⟨self.gadget.output, .finished, returned⟩
  | .ok (.error _, self) => ⟨self.gadget.output, .finished, returned⟩
  | .error (_, self) => ⟨self.gadget.output, .panicked, returned⟩

/-- A report that the poll of a kind finds ends the call; otherwise the rest of
the call decides. -/
theorem loopAfter_poll (os : Os K) (kind : ReportKind) (slot : UInt8)
    (self : RawGadgetTransport K) (returned : List OutputReport)
    {rest : Option kind.Report → Method (RawGadgetTransport K) Errno (Option OutputReport)}
    (found : ∀ report, rest (some report) = .returns (some (kind.wrap report))) :
    loopAfter returned (((hardware os).poll kind slot).andThen rest self) =
      match kind.poll self.gadget.output slot with
      | .ok (some report, output) => .polled returned kind (.ok (some report, output))
      | .ok (none, output) => loopAfter returned
          (rest none { self with gadget := { self.gadget with output } })
      | .error panic => .polled returned kind (.error panic) := by
  rw [RawGadgetTransport.poll_eq, Method.andThen.eq_def, onOutput, Method.on.eq_def]
  simp only [Method.infallible]
  rcases kind.poll self.gadget.output slot with ⟨why, output⟩ | ⟨report, output⟩
  · rfl
  · cases report with
    | some report =>
        dsimp only
        rw [found report]
        rfl
    | none => rfl

/-- An uninterrupted call of `poll_output` is a run of the drain loop. -/
theorem drainLoop_pollOutput (os : Os K) (slot : UInt8) (self : RawGadgetTransport K)
    (returned : List OutputReport) :
    DrainLoop.Reaches slot ⟨self.gadget.output, .calling, returned⟩
      (loopAfter returned ((hardware os).pollOutput slot self)) := by
  have called : (drainLoop slot).step ⟨self.gadget.output, .calling, returned⟩ .advance =
      some ⟨self.gadget.output, .draining .rumble, returned⟩ := rfl
  have rumble := (DrainLoop.Reaches.single called).trans
    (reaches_poll slot self.gadget.output .rumble returned)
  rw [(outputCells_hardware os).pollOutput_eq,
    loopAfter_poll os .rumble slot self returned fun _ => rfl]
  generalize ReportKind.poll .rumble self.gadget.output slot = polled at rumble ⊢
  rcases polled with ⟨why, output⟩ | ⟨report, output⟩
  · exact rumble
  · cases report with
    | some report => exact rumble
    | none =>
        have led := rumble.trans (reaches_poll slot output .led returned)
        dsimp only
        rw [loopAfter_poll os .led slot _ returned fun _ => rfl]
        generalize ReportKind.poll .led output slot = polled at led ⊢
        rcases polled with ⟨why, output⟩ | ⟨report, output⟩
        · exact led
        · cases report <;> exact led

end X360Gadget.Session
