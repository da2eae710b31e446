import X360Gadget.Kernel.Opening
import X360Gadget.Session.OutputCells
import X360Gadget.Transport.Gadget

/-!
# The hardware transport

`hardware` is `RawGadgetTransport`'s implementation of the trait. Each method is
a run of the caller's steps in the machine of all threads, so every state the
transport reaches is a state of a run of that machine.
-/

namespace X360Gadget.Session

open X360Gadget.Descriptors X360Gadget.Kernel X360Gadget.Protocol X360Gadget.Std
open X360Gadget.Transport

variable {K : Type}

/-- The transport: its descriptor, what it handed to the ep0 thread, and what it
shares with the other threads. -/
structure RawGadgetTransport (K : Type) where
  fd : Int32
  numInterfaces : UInt8
  desc : DescriptorBytes
  gadget : Gadget K

namespace RawGadgetTransport

/-- The transport `new` returns once its ep0 thread runs. -/
def start (config : ConfigDescriptorSet) (fd : Int32) (kernel : K) : RawGadgetTransport K where
  fd
  numInterfaces := config.numInterfaces
  desc := buildDescriptorBytes config
  gadget := Gadget.new kernel

/-- A method of the shared state and the kernel. -/
def onWorld {R : Type} (method : Method (Ep0World K) Errno R) :
    Method (RawGadgetTransport K) Errno R :=
  method.on (·.gadget.world) fun self world => { self with gadget := { self.gadget with world } }

/-- A method of the channel and the buffers. -/
def onOutput {R : Type} (method : Method OutputBuffers Errno R) :
    Method (RawGadgetTransport K) Errno R :=
  method.on (·.gadget.output) fun self output =>
    { self with gadget := { self.gadget with output } }

/-- The handle of a slot's IN endpoint, under the lock. -/
def lookupEpIn (slot : UInt8) : Method (Ep0World K) Errno (Option Int32) := fun w =>
  match epInHandle slot w with
  | .ok handle => .ok (.ok handle, w)
  | .error panic => .error panic

/-- `raw_gadget_ep_write` of a report. -/
def epWrite (os : Os K) (ep : Int32) (report : InputReport) : Method (Ep0World K) Errno Unit :=
  fun w =>
    let call := Syscall.epWrite (inputReportIo ep report)
    .ok ((w.reply os call).result.map fun _ => (), w.issue os call)

section Opening

variable (replies : OpenReplies)

/-- `RawGadgetTransport::new`: open the device, bind it to the controller and start
the ep0 thread, which meets `kernel`. -/
def new (config : ConfigDescriptorSet) (driver device : String) (kernel : K) :
    Method (Finset Int32) Errno (RawGadgetTransport K) :=
  (rawGadgetOpenNonblock replies).andThen fun fd =>
    (rawGadgetInit replies fd (.new driver device usbSpeedHigh)).andThen fun _ =>
      (rawGadgetRun replies fd).andThen fun _ =>
        (spawnEp0 replies fd).andThen fun _ => .returns (.start config fd kernel)

/-- `drop` closes the descriptor and waits for the ep0 thread. -/
def drop (self : RawGadgetTransport K) (fds : Finset Int32) : Finset Int32 :=
  rawGadgetClose self.fd fds

end Opening

end RawGadgetTransport

open RawGadgetTransport in
/-- The trait's methods. Without a handle a report is dropped silently. -/
def hardware (os : Os K) : Transport (RawGadgetTransport K) Errno where
  writeDescriptor _ := .returns ()
  writeInputReport interface report := (onWorld (lookupEpIn interface)).andThen fun
    | some ep => onWorld (epWrite os ep report)
    | none => .returns ()
  pollRumble interface := onOutput (.infallible fun output => output.pollRumble interface)
  pollLed interface := onOutput (.infallible fun output => output.pollLed interface)

namespace RawGadgetTransport

/-! ## The polls read the waiting reports -/

/-- The report a poll of the kind and slot would take. -/
def waiting : Cells (RawGadgetTransport K) :=
  fun kind self slot => kind.waiting self.gadget.output slot

/-- A poll of the transport is the caller's poll of the buffers. -/
theorem poll_eq (os : Os K) (kind : ReportKind) (slot : UInt8) : (hardware os).poll kind slot =
    onOutput (.infallible fun output => kind.poll output slot) := by
  cases kind <;> rfl

/-- A poll leaves the buffers as the caller's step does. -/
theorem stateAfter_poll (os : Os K) (kind : ReportKind) (slot : UInt8)
    (self : RawGadgetTransport K) : ((hardware os).poll kind slot).stateAfter self =
      { self with gadget := { self.gadget with
          output := afterPoll (kind.poll self.gadget.output slot) } } := by
  have moved : (.infallible fun output => kind.poll output slot :
      Method OutputBuffers Errno (Option kind.Report)).stateAfter self.gadget.output =
        afterPoll (kind.poll self.gadget.output slot) := by
    cases called : kind.poll self.gadget.output slot <;>
      simp only [Method.stateAfter, Method.infallible, afterPoll, called]
  rw [poll_eq, onOutput, Method.stateAfter_on, moved]

/-! ## What a write leaves -/

/-- The shared state and the kernel after `write_input_report`. -/
def worldAfterWrite (os : Os K) (interface : UInt8) (report : InputReport) (w : Ep0World K) :
    Ep0World K :=
  match epInHandle interface w with
  | .ok (some ep) => w.issue os (.epWrite (inputReportIo ep report))
  | .ok none => w
  | .error (_, w) => w

/-- Without a handle no call is made. -/
theorem log_worldAfterWrite {os : Os K} {interface : UInt8} {report : InputReport} {w : Ep0World K}
    (absent : ∀ ep, epInHandle interface w ≠ .ok (some ep)) :
    (worldAfterWrite os interface report w).log = w.log := by
  rw [worldAfterWrite]
  cases found : epInHandle interface w with
  | ok handle =>
      cases handle with
      | none => rfl
      | some ep => exact absurd found (absent ep)
  | error panic =>
      unfold epInHandle at found
      split at found
      · cases found
        rfl
      · split at found
        · cases found
        · cases found
          rfl

/-- A write leaves the channel and the buffers alone. -/
theorem stateAfter_writeInputReport (os : Os K) (interface : UInt8) (report : InputReport)
    (self : RawGadgetTransport K) :
    ((hardware os).writeInputReport interface report).stateAfter self =
      { self with gadget := { self.gadget with
          world := worldAfterWrite os interface report self.gadget.world } } := by
  simp only [hardware, Method.stateAfter, Method.andThen, onWorld, Method.on, lookupEpIn,
    worldAfterWrite]
  cases found : epInHandle interface self.gadget.world with
  | ok handle => cases handle <;> rfl
  | error panic => rfl

end RawGadgetTransport

/-- The polls of the hardware read the channel overlaid on the buffers. -/
theorem outputCells_hardware (os : Os K) :
    OutputCells (hardware os) RawGadgetTransport.waiting := by
  refine ⟨?_, ?_, rfl⟩
  · intro kind slot self
    rw [RawGadgetTransport.poll_eq, RawGadgetTransport.onOutput, Method.result_on]
    by_cases inRange : slot.toNat < 4
    · obtain ⟨after, returned⟩ := kind.poll_eq self.gadget.output inRange
      rw [if_pos inRange]
      simp only [Method.result, Method.infallible, returned]
      rfl
    · rw [if_neg inRange]
      cases kind <;>
        simp [Method.result, Method.infallible, ReportKind.poll, OutputBuffers.pollRumble,
          OutputBuffers.pollLed, inRange]
  · intro kind slot self other index bound
    rw [RawGadgetTransport.stateAfter_poll]
    exact ReportKind.waiting_afterPoll bound

namespace RawGadgetTransport

/-- A reader thread sends on the channel. -/
def send (self : RawGadgetTransport K) (slot : UInt8) (report : OutputReport) :
    RawGadgetTransport K :=
  { self with gadget := { self.gadget with output := self.gadget.output.send slot report } }

/-- A report that is sent arrives where it waits. -/
theorem arrives_send : Arrives waiting (@send K) := by
  intro self slot report kind index valid inRange
  exact ReportKind.waiting_send inRange

/-! ## Methods as runs of the machine -/

/-- The machine of all threads this transport belongs to. -/
def machine (os : Os K) (self : RawGadgetTransport K) : Machine (Gadget K) GadgetAction :=
  Transport.gadget os self.numInterfaces self.desc

/-- Only the shared part moved, by a run of the machine that ended between two
operations of the caller. -/
structure Follows (os : Os K) (before after : RawGadgetTransport K) : Prop where
  idle : after.gadget.CallerIdle
  runs : ∃ actions, (before.machine os).run before.gadget actions = some after.gadget
  same : after = { before with gadget := after.gadget }

section Follows

variable {os : Os K} {self middle next : RawGadgetTransport K}

/-- A gadget follows itself by no step. -/
theorem Follows.refl (idle : self.gadget.CallerIdle) : Follows os self self :=
  ⟨idle, ⟨[], rfl⟩, rfl⟩

/-- Following composes. -/
theorem Follows.trans (first : Follows os self middle) (second : Follows os middle next) :
    Follows os self next := by
  obtain ⟨taken, runs⟩ := first.runs
  obtain ⟨more, runsOn⟩ := second.runs
  have sameMachine : middle.machine os = self.machine os := by rw [first.same]; rfl
  refine ⟨second.idle, ⟨taken ++ more, ?_⟩, ?_⟩
  · rw [Machine.run_append, runs, Option.bind_some, ← sameMachine]
    exact runsOn
  · rw [second.same, first.same]

/-- One step of the machine that leaves the caller idle. -/
theorem Follows.single {g : Gadget K} (action : GadgetAction)
    (stepped : (self.machine os).step self.gadget action = some g) (idle : g.CallerIdle) :
    Follows os self { self with gadget := g } := by
  refine ⟨idle, ⟨[action], ?_⟩, rfl⟩
  rw [Machine.run_cons, stepped]
  rfl

/-- A poll of one kind is a step of the gadget. -/
theorem follows_poll (idle : self.gadget.CallerIdle) (kind : ReportKind) (slot : UInt8) :
    Follows os self (((hardware os).poll kind slot).stateAfter self) := by
  rw [stateAfter_poll]
  exact .single (.poll kind slot) (if_pos idle) idle

/-- A poll of output is a step of the gadget. -/
theorem follows_pollOutput (idle : self.gadget.CallerIdle) (slot : UInt8) :
    Follows os self (((hardware os).pollOutput slot).stateAfter self) := by
  rw [(outputCells_hardware os).pollOutput_eq]
  refine Method.stateAfter_andThen_induction (Follows os self)
    (follows_poll idle .rumble slot) ?_
  intro value after followed
  cases value with
  | some r => exact followed
  | none =>
      refine Method.stateAfter_andThen_induction (Follows os self)
        (followed.trans (follows_poll followed.idle .led slot)) ?_
      intro value after followed
      cases value <;> exact followed

/-- A whole `write_input_report` is the lookup and, on a handle, the write. -/
theorem follows_writeInputReport (idle : self.gadget.CallerIdle) (interface : UInt8)
    (report : InputReport) :
    Follows os self (((hardware os).writeInputReport interface report).stateAfter self) := by
  have looked : (self.machine os).step self.gadget (.lookup interface report) =
      some (stepLookup self.gadget interface report) := if_pos idle
  rw [stateAfter_writeInputReport, worldAfterWrite]
  cases found : epInHandle interface self.gadget.world with
  | ok handle =>
      cases handle with
      | none => exact .refl idle
      | some ep =>
          have wrote : (self.machine os).step (stepLookup self.gadget interface report) .epWrite =
              some { self.gadget with
                world := self.gadget.world.issue os (.epWrite (inputReportIo ep report)) } := by
            simp [stepLookup, found, machine, Transport.gadget, Gadget.step, idle.2]
          refine ⟨idle, ⟨[.lookup interface report, .epWrite], ?_⟩, rfl⟩
          rw [Machine.run_cons, looked, Option.bind_some, Machine.run_cons, wrote]
          rfl
  | error panic =>
      obtain ⟨why, w⟩ := panic
      refine .single (.lookup interface report) ?_ idle
      rw [looked, stepLookup, found]

end Follows

end RawGadgetTransport

end X360Gadget.Session
