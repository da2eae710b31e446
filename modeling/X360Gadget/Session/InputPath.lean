import X360Gadget.Protocol.Codec
import X360Gadget.Session.HardwareRuns

/-!
# From a slot to the host

A send is a lookup and, if that finds a handle, an `EP_WRITE` later on, with any
steps of the other threads in between. `emulation` interleaves the owner's calls with
those threads at this grain. `hostReads_of_run` says what is handed to `EP_WRITE` in a run,
for each send that found a handle the state last set on its slot in the order of the
calls, and what of it the host reads: that of each send whose `EP_WRITE` the kernel
accepted.
-/

namespace X360Gadget.Session

open X360Gadget.Descriptors X360Gadget.Kernel X360Gadget.Protocol X360Gadget.Std
open X360Gadget.Transport WirelessReceiver

variable {K : Type}

/-- A receiver on the hardware and what its owner has called so far. -/
structure Emulation (K : Type) where
  receiver : WirelessReceiver (RawGadgetTransport K)
  past : List Operation

/-- A step of the owner or of another thread. -/
inductive EmulationAction where
  | call (operation : Operation)
  /-- A background thread, or the `EP_WRITE` of the pending send. -/
  | thread (action : GadgetAction)
deriving DecidableEq

/-- Everything shared with the threads. -/
def Emulation.gadget (s : Emulation K) : Gadget K := s.receiver.transport.gadget

/-- A receiver whose shared part was replaced. -/
def withGadget (self : WirelessReceiver (RawGadgetTransport K)) (gadget : Gadget K) :
    WirelessReceiver (RawGadgetTransport K) :=
  { self with transport := { self.transport with gadget } }

/-- A call up to the point where a send waits for its `EP_WRITE`. -/
def begin (os : Os K) (self : WirelessReceiver (RawGadgetTransport K)) :
    Operation → WirelessReceiver (RawGadgetTransport K)
  | .sendInput slotIndex =>
      match self.slot slotIndex with
      | some slot => withGadget self
          (stepLookup self.transport.gadget slotIndex (InputReport.fromInput slot.state))
      | none => self
  | .sendRawInput slotIndex data =>
      match InputReport.fromBytes data with
      | some report => withGadget self (stepLookup self.transport.gadget slotIndex report)
      | none => self
  | operation => perform (hardware os) self operation

/-- The owner calls when no send is pending; other threads take steps at any time. -/
def Emulation.step (os : Os K) (s : Emulation K) : EmulationAction → Option (Emulation K)
  | .call operation =>
      if s.gadget.CallerIdle then
        some { receiver := begin os s.receiver operation, past := s.past ++ [operation] }
      else none
  | .thread action =>
      if IsBackground action ∨ action = .epWrite then
        ((s.receiver.transport.machine os).step s.gadget action).map fun gadget =>
          { s with receiver := withGadget s.receiver gadget }
      else none

/-- The emulation as a machine. -/
def emulation (os : Os K) : Machine (Emulation K) EmulationAction where
  step := Emulation.step os

/-- A fresh receiver on a transport that just started. -/
def Emulation.new (config : ConfigDescriptorSet) (fd : Int32) (kernel : K) : Emulation K where
  receiver := .new config (.start config fd kernel)
  past := []

/-! ## What the host reads -/

/-- The endpoint of a transfer and the controls its bytes decode to. -/
def hostReads (io : UsbRawInterruptEpIo) : UInt16 × Option InputState :=
  (io.inner.ep, (InputReport.fromBytes (io.data.bytes.take io.inner.length.toNat)).map
    InputReport.decode)

/-- The transfers handed to `EP_WRITE` and the one that is about to be. -/
def handed (g : Gadget K) : List UsbRawInterruptEpIo :=
  epWrites g.world.log ++ g.writing.toList.map fun write => inputReportIo write.ep write.report

/-- The transfers that the kernel accepted: those that reach the host. -/
def accepted (log : List Interaction) : List UsbRawInterruptEpIo :=
  log.filterMap fun
    | .called (.epWrite io) reply => if reply.result.isOk then some io else none
    | _ => none

/-- What the kernel answered to each `EP_WRITE`. -/
def writeReplies (log : List Interaction) : List SyscallReply :=
  log.filterMap fun
    | .called (.epWrite _) reply => some reply
    | _ => none

/-- What the kernel accepted of all that was handed to `EP_WRITE`; a write that is
still pending has no reply. -/
def whereAccepted {R : Type} (all : List R) (replies : List SyscallReply) : List R :=
  (all.zip replies).filterMap fun (value, reply) =>
    if reply.result.isOk then some value else none

/-- The endpoint that a lookup finds now. -/
def endpoint (g : Gadget K) (slot : UInt8) : Option UInt16 :=
  match epInHandle slot g.world with
  | .ok (some ep) => some ep.toUInt32.toUInt16
  | _ => none

/-- What a call hands to the kernel for the host. -/
def handsOver (s : Emulation K) : EmulationAction → Option (UInt16 × Option InputState)
  | .call (.sendInput slotIndex) =>
      if slotIndex < s.receiver.config.numInterfaces then
        (endpoint s.gadget slotIndex).map fun ep => (ep, some (lastState s.past slotIndex))
      else none
  | .call (.sendRawInput slotIndex data) =>
      (InputReport.fromBytes data).bind fun report =>
        (endpoint s.gadget slotIndex).map fun ep => (ep, some report.decode)
  | _ => none

/-! ## Each step -/

/-- The host decodes the report that was written. -/
theorem hostReads_inputReportIo (ep : Int32) (report : InputReport) :
    hostReads (inputReportIo ep report) = (ep.toUInt32.toUInt16, some report.decode) := by
  have size : report.asBytes.length = inputReportLen := report.length_asBytes
  have payload : (inputReportIo ep report).data.bytes.take inputReportLen = report.asBytes := by
    rw [inputReportIo, IoBuffer.bytes, List.take_append_of_le_length (Nat.le_of_eq size.symm),
      List.take_of_length_le (Nat.le_of_eq size)]
  have read : InputReport.fromBytes ((inputReportIo ep report).data.bytes.take
      (inputReportIo ep report).inner.length.toNat) = some report := by
    change InputReport.fromBytes ((inputReportIo ep report).data.bytes.take inputReportLen) = _
    rw [payload, InputReport.fromBytes_asBytes]
  rw [hostReads, read]
  rfl

section Accepted

variable {R : Type} {all more : List R} {value : R} {replies : List SyscallReply}
  {reply : SyscallReply}

/-- The first of what was handed over is kept if its reply is no error. -/
theorem whereAccepted_cons : whereAccepted (value :: all) (reply :: replies) =
    (if reply.result.isOk then [value] else []) ++ whereAccepted all replies := by
  cases accepts : reply.result.isOk <;> simp [whereAccepted, accepts]

/-- What has no reply is not accepted. -/
theorem whereAccepted_append (answered : all.length = replies.length) :
    whereAccepted (all ++ more) replies = whereAccepted all replies := by
  have pairs : (all ++ more).zip (replies ++ []) = all.zip replies ++ more.zip [] :=
    List.zip_append answered
  rw [List.append_nil, List.zip_nil_right, List.append_nil] at pairs
  rw [whereAccepted, pairs, whereAccepted]

/-- Each issued `EP_WRITE` has its reply, and the accepted ones are the transfers whose
reply is no error. -/
theorem map_accepted_log (read : UsbRawInterruptEpIo → R) (log : List Interaction) :
    (epWrites log).length = (writeReplies log).length ∧
      (accepted log).map read =
        whereAccepted ((epWrites log).map read) (writeReplies log) := by
  induction log with
  | nil => exact ⟨rfl, rfl⟩
  | cons entry rest ih =>
      obtain ⟨sameLength, kept⟩ := ih
      have skip : epWrites (entry :: rest) = epWrites rest →
          writeReplies (entry :: rest) = writeReplies rest →
          accepted (entry :: rest) = accepted rest →
          (epWrites (entry :: rest)).length = (writeReplies (entry :: rest)).length ∧
            (accepted (entry :: rest)).map read =
              whereAccepted ((epWrites (entry :: rest)).map read)
                (writeReplies (entry :: rest)) := by
        intro writes answers passed
        rw [writes, answers, passed]
        exact ⟨sameLength, kept⟩
      cases entry with
      | handled event => exact skip rfl rfl rfl
      | called call reply =>
          cases call with
          | epWrite io =>
              have writes : epWrites (.called (.epWrite io) reply :: rest) =
                  io :: epWrites rest := rfl
              have answers : writeReplies (.called (.epWrite io) reply :: rest) =
                  reply :: writeReplies rest := rfl
              have passed : accepted (.called (.epWrite io) reply :: rest) =
                  (if reply.result.isOk then [io] else []) ++ accepted rest := by
                cases accepts : reply.result.isOk <;> simp [accepted, accepts]
              rw [writes, answers, passed, List.map_cons, whereAccepted_cons, ← kept,
                List.map_append, List.length_cons, List.length_cons, sameLength]
              refine ⟨rfl, ?_⟩
              cases reply.result.isOk <;> rfl
          | _ => exact skip rfl rfl rfl

/-- The host gets what the kernel accepted of all that was handed over. -/
theorem map_accepted (read : UsbRawInterruptEpIo → R) (g : Gadget K) :
    (accepted g.world.log).map read =
      whereAccepted ((handed g).map read) (writeReplies g.world.log) := by
  obtain ⟨sameLength, kept⟩ := map_accepted_log read g.world.log
  rw [handed, List.map_append, whereAccepted_append (by rw [List.length_map, sameLength]), kept]

end Accepted

section Steps

variable {os : Os K} {numInterfaces : UInt8} {desc : DescriptorBytes} {g next : Gadget K}

/-- While no write is pending all that was handed over was issued. -/
theorem handed_of_idle (idle : g.CallerIdle) : handed g = epWrites g.world.log := by
  rw [handed, idle.2]
  exact List.append_nil _

/-- A lookup that finds a handle adds its transfer, and any other lookup none. -/
theorem handed_stepLookup (idle : g.CallerIdle) (slot : UInt8) (report : InputReport) :
    (handed (stepLookup g slot report)).map hostReads = (handed g).map hostReads ++
      ((endpoint g slot).map fun ep => (ep, some report.decode)).toList := by
  rw [handed_of_idle idle, stepLookup, endpoint]
  cases found : epInHandle slot g.world with
  | ok handle =>
      cases handle with
      | some ep =>
          rw [handed, List.map_append]
          exact congrArg (_ ++ [·]) (hostReads_inputReportIo ep report)
      | none =>
          rw [handed_of_idle idle]
          exact (List.append_nil _).symm
  | error panic =>
      -- A panic poisons the mutex and calls nothing.
      obtain ⟨why, w⟩ := panic
      have log : w.log = g.world.log := by
        unfold epInHandle at found
        split at found
        · cases found
          rfl
        · split at found
          · cases found
          · cases found
            rfl
      have nothing : handed { g with world := w } = epWrites g.world.log := by
        rw [handed, idle.2, log]
        exact List.append_nil _
      rw [nothing]
      exact (List.append_nil _).symm

/-- The other threads leave a pending send pending. -/
theorem writing_of_background {action : GadgetAction} (isBackground : IsBackground action)
    (stepped : (Transport.gadget os numInterfaces desc).step g action = some next) :
    next.writing = g.writing := by
  cases gadget_step stepped with
  | fetch result alive =>
      unfold stepFetch
      split <;> rfl
  | epOut reader read live =>
      unfold stepEpOut
      split
      · split <;> rfl
      · rfl
      · rfl
      · rfl
  | _ => cases isBackground

/-- Neither the other threads nor the `EP_WRITE` itself add a transfer. -/
theorem handed_of_thread (few : numInterfaces.toNat ≤ 4) {action : GadgetAction}
    (isThread : IsBackground action ∨ action = .epWrite)
    (stepped : (Transport.gadget os numInterfaces desc).step g action = some next) :
    handed next = handed g := by
  rcases isThread with isBackground | rfl
  · have other : action ≠ .epWrite := by
      rintro rfl
      exact isBackground
    rw [handed, handed, epWrites_of_worldStep (gadget_worldStep few stepped) other,
      writing_of_background isBackground stepped]
  · cases gadget_step stepped with
    | epWrite write pending =>
        rw [handed, handed, pending, Ep0World.issue_log, epWrites, List.filterMap_append]
        exact List.append_nil _

end Steps

/-! ## The receiver beside its threads -/

/-- The transport changed at most its channel and its buffers. -/
def OutputOnly (before after : RawGadgetTransport K) : Prop :=
  ∃ output, after = { before with gadget := { before.gadget with output } }

/-- A poll of one kind changes the output buffers alone. -/
theorem outputOnly_poll (os : Os K) (kind : ReportKind) (slot : UInt8)
    (self : RawGadgetTransport K) :
    OutputOnly self (((hardware os).poll kind slot).stateAfter self) :=
  ⟨_, RawGadgetTransport.stateAfter_poll os kind slot self⟩

/-- Changes of the output buffers alone compose. -/
theorem OutputOnly.trans {first second third : RawGadgetTransport K}
    (before : OutputOnly first second) (after : OutputOnly second third) :
    OutputOnly first third := by
  obtain ⟨output, rfl⟩ := before
  obtain ⟨output', rfl⟩ := after
  exact ⟨output', rfl⟩

/-- A poll of output changes the output buffers alone. -/
theorem outputOnly_pollOutput (os : Os K) (slot : UInt8) (self : RawGadgetTransport K) :
    OutputOnly self (((hardware os).pollOutput slot).stateAfter self) := by
  rw [(outputCells_hardware os).pollOutput_eq]
  refine Method.stateAfter_andThen_induction (OutputOnly self)
    (outputOnly_poll os .rumble slot self) ?_
  intro value after polled
  cases value with
  | some r => exact polled
  | none =>
      refine Method.stateAfter_andThen_induction (OutputOnly self)
        (polled.trans (outputOnly_poll os .led slot after)) ?_
      intro value after polled
      cases value <;> exact polled

section Begin

variable {os : Os K} {self : WirelessReceiver (RawGadgetTransport K)} {operation : Operation}

/-- A call changes the slots as the operation does. -/
theorem slots_begin : (begin os self operation).slots =
    (perform (hardware os) self operation).slots := by
  have kept : (∀ index state, operation ≠ .setState index state) →
      (perform (hardware os) self operation).slots = self.slots := by
    intro other
    obtain ⟨after, -, same⟩ := exists_perform_eq (hardware os) self other
    rw [same]
  cases operation with
  | sendInput slotIndex =>
      rw [kept fun _ _ => Operation.noConfusion]
      cases found : self.slot slotIndex <;> simp only [begin, found, withGadget]
  | sendRawInput slotIndex data =>
      rw [kept fun _ _ => Operation.noConfusion]
      cases taken : InputReport.fromBytes data <;> simp only [begin, taken, withGadget]
  | _ => rfl

/-- The operations that poll. -/
def IsPoll : Operation → Prop
  | .pollRumble _ | .pollLed _ | .pollOutput _ => True
  | _ => False

/-- An operation that polls changes the output buffers alone. -/
theorem outputOnly_begin (polls : IsPoll operation) :
    OutputOnly self.transport (begin os self operation).transport := by
  cases operation with
  | pollRumble slotIndex =>
      change OutputOnly _ (perform (hardware os) self (.pollRumble slotIndex)).transport
      rw [perform, pollRumble, stateAfter_onTransport]
      exact outputOnly_poll os .rumble slotIndex self.transport
  | pollLed slotIndex =>
      change OutputOnly _ (perform (hardware os) self (.pollLed slotIndex)).transport
      rw [perform, pollLed, stateAfter_onTransport]
      exact outputOnly_poll os .led slotIndex self.transport
  | pollOutput slotIndex =>
      change OutputOnly _ (perform (hardware os) self (.pollOutput slotIndex)).transport
      rw [perform, pollOutput, stateAfter_onTransport]
      exact outputOnly_pollOutput os slotIndex self.transport
  | _ => cases polls

/-- Beside the slots a call moves at most the shared part. -/
theorem begin_moves : ∃ gadget, (begin os self operation).transport =
    { self.transport with gadget } := by
  by_cases polls : IsPoll operation
  · obtain ⟨output, same⟩ := outputOnly_begin polls
    exact ⟨_, same⟩
  cases operation with
  | setState index state => exact ⟨self.transport.gadget, rfl⟩
  | sendInput slotIndex =>
      cases found : self.slot slotIndex <;> simp only [begin, found, withGadget]
      · exact ⟨self.transport.gadget, rfl⟩
      · exact ⟨_, rfl⟩
  | sendRawInput slotIndex data =>
      cases taken : InputReport.fromBytes data <;> simp only [begin, taken, withGadget]
      · exact ⟨self.transport.gadget, rfl⟩
      · exact ⟨_, rfl⟩
  | _ => exact absurd trivial polls

/-- No operation changes the configuration of the receiver. -/
theorem config_begin : (begin os self operation).config = self.config := by
  cases operation with
  | sendInput slotIndex =>
      cases found : self.slot slotIndex <;> simp only [begin, found, withGadget]
  | sendRawInput slotIndex data =>
      cases taken : InputReport.fromBytes data <;> simp only [begin, taken, withGadget]
  | _ => exact config_perform _ _ _

/-- What a call hands over is what it adds to the transfers. -/
theorem handed_begin (idle : self.transport.gadget.CallerIdle) {past : List Operation}
    (slots : ∀ index, self.slot index =
      if index < self.config.numInterfaces then some ⟨index, lastState past index⟩ else none) :
    (handed (begin os self operation).transport.gadget).map hostReads =
      (handed self.transport.gadget).map hostReads ++
        (handsOver ⟨self, past⟩ (.call operation)).toList := by
  by_cases polls : IsPoll operation
  · have nothing : handsOver ⟨self, past⟩ (.call operation) = none := by
      cases operation <;> first | rfl | cases polls
    obtain ⟨output, same⟩ : OutputOnly self.transport (begin os self operation).transport :=
      outputOnly_begin polls
    rw [nothing, same]
    exact (List.append_nil _).symm
  cases operation with
  | setState index state => exact (List.append_nil _).symm
  | sendInput slotIndex =>
      simp only [begin, handsOver, slots slotIndex]
      by_cases inRange : slotIndex < self.config.numInterfaces
      · simp only [if_pos inRange]
        refine (handed_stepLookup idle slotIndex _).trans ?_
        rw [InputReport.decode_fromInput]
        rfl
      · simp only [if_neg inRange]
        exact (List.append_nil _).symm
  | sendRawInput slotIndex data =>
      simp only [begin, handsOver]
      cases InputReport.fromBytes data with
      | some report => exact handed_stepLookup idle slotIndex report
      | none => exact (List.append_nil _).symm
  | _ => exact absurd trivial polls

/-- A write is a lookup and, where that found a handle, the `EP_WRITE` right after. -/
theorem run_write (idle : self.transport.gadget.CallerIdle) (slotIndex : UInt8)
    (report : InputReport) (past : List Operation) :
    ∃ threads, (threads = [] ∨ threads = [.thread .epWrite]) ∧
      (emulation os).run
          ⟨withGadget self (stepLookup self.transport.gadget slotIndex report), past⟩ threads =
        some ⟨{ self with transport :=
          ((hardware os).writeInputReport slotIndex report).stateAfter self.transport }, past⟩ := by
  rw [RawGadgetTransport.stateAfter_writeInputReport, RawGadgetTransport.worldAfterWrite,
    stepLookup]
  cases found : epInHandle slotIndex self.transport.gadget.world with
  | ok handle =>
      cases handle with
      | some ep =>
          refine ⟨[.thread .epWrite], .inr rfl, ?_⟩
          rw [Machine.run_cons]
          simp only [emulation, Emulation.step, Emulation.gadget, withGadget, or_true, if_true,
            RawGadgetTransport.machine, Transport.gadget, Gadget.step, Option.map_some,
            Option.bind_some, Machine.run_nil]
          rw [idle.2]
      | none => exact ⟨[], .inl rfl, rfl⟩
  | error panic => exact ⟨[], .inl rfl, rfl⟩

/-- An operation of the owner is its call and, after a send that found a handle, the
`EP_WRITE`. -/
theorem run_perform (idle : self.transport.gadget.CallerIdle) (past : List Operation) :
    ∃ threads, (threads = [] ∨ threads = [.thread .epWrite]) ∧
      (emulation os).run ⟨self, past⟩ (.call operation :: threads) =
        some ⟨perform (hardware os) self operation, past ++ [operation]⟩ := by
  have called : (emulation os).step ⟨self, past⟩ (.call operation) =
      some ⟨begin os self operation, past ++ [operation]⟩ := if_pos idle
  have alone : begin os self operation = perform (hardware os) self operation →
      ∃ threads, (threads = [] ∨ threads = [.thread .epWrite]) ∧
        (emulation os).run ⟨self, past⟩ (.call operation :: threads) =
          some ⟨perform (hardware os) self operation, past ++ [operation]⟩ := by
    intro same
    refine ⟨[], .inl rfl, ?_⟩
    rw [Machine.run_cons, called, same]
    rfl
  cases operation with
  | sendInput slotIndex =>
      cases found : self.slot slotIndex with
      | some slot =>
          have begun : begin os self (.sendInput slotIndex) = withGadget self
              (stepLookup self.transport.gadget slotIndex (.fromInput slot.state)) := by
            rw [begin, found]
          obtain ⟨threads, few, runs⟩ := run_write idle slotIndex
            (.fromInput slot.state) (past ++ [.sendInput slotIndex])
          refine ⟨threads, few, ?_⟩
          rw [Machine.run_cons, called, Option.bind_some, begun, runs, perform,
            Method.stateAfter_congr (sendInput_of_some _ self found), stateAfter_onTransport]
      | none =>
          apply alone
          rw [perform, Method.stateAfter_of_eq_ok (sendInput_of_none _ self found), begin, found]
  | sendRawInput slotIndex data =>
      cases taken : InputReport.fromBytes data with
      | some report =>
          have begun : begin os self (.sendRawInput slotIndex data) = withGadget self
              (stepLookup self.transport.gadget slotIndex report) := by
            rw [begin, taken]
          obtain ⟨threads, few, runs⟩ := run_write idle slotIndex report
            (past ++ [.sendRawInput slotIndex data])
          refine ⟨threads, few, ?_⟩
          rw [Machine.run_cons, called, Option.bind_some, begun, runs, perform, sendRawInput, taken,
            stateAfter_onTransport]
      | none =>
          apply alone
          rw [perform, sendRawInput, taken, begin, taken]
          rfl
  | _ => exact alone rfl

end Begin

/-! ## Runs -/

/-- The slots hold what was last set on them, and the configuration stays. -/
structure Emulation.Sound (config : ConfigDescriptorSet) (s : Emulation K) : Prop where
  sameConfig : s.receiver.config = config
  interfaces : s.receiver.transport.numInterfaces = config.numInterfaces
  slots : ∀ index, s.receiver.slot index =
    if index < config.numInterfaces then some ⟨index, lastState s.past index⟩ else none

/-- An emulation starts where its invariant holds. -/
theorem sound_new (config : ConfigDescriptorSet) (fd : Int32) (kernel : K) :
    (Emulation.new config fd kernel).Sound config :=
  ⟨rfl, rfl, fun index => slot_new index config _⟩

section Runs

variable {os : Os K} {config : ConfigDescriptorSet} {s next : Emulation K}
  {action : EmulationAction}

/-- Every step of the emulation keeps its invariant. -/
theorem Emulation.Sound.step (sound : s.Sound config)
    (stepped : (emulation os).step s action = some next) : next.Sound config := by
  change s.step os action = some next at stepped
  cases action with
  | call operation =>
      simp only [Emulation.step, Option.ite_none_right_eq_some, Option.some.injEq] at stepped
      obtain ⟨idle, rfl⟩ := stepped
      obtain ⟨gadget, moved⟩ : ∃ gadget, (begin os s.receiver operation).transport =
          { s.receiver.transport with gadget } := begin_moves
      refine ⟨config_begin.trans sound.sameConfig, ?_, fun index => ?_⟩
      · rw [moved]
        exact sound.interfaces
      · have after := slot_perform (hardware os) s.receiver operation index
        rw [slot, ← slots_begin, ← slot, sound.slots index] at after
        rw [after, lastState_concat]
        split <;> rfl
  | thread action =>
      simp only [Emulation.step, Option.ite_none_right_eq_some, Option.map_eq_some_iff] at stepped
      obtain ⟨-, gadget, -, rfl⟩ := stepped
      exact ⟨sound.sameConfig, sound.interfaces, sound.slots⟩

/-- Each step adds to the transfers what it hands over. -/
theorem handed_step (few : config.numInterfaces.toNat ≤ 4) (sound : s.Sound config)
    (stepped : (emulation os).step s action = some next) :
    (handed next.gadget).map hostReads =
      (handed s.gadget).map hostReads ++ (handsOver s action).toList := by
  change s.step os action = some next at stepped
  cases action with
  | call operation =>
      simp only [Emulation.step, Option.ite_none_right_eq_some, Option.some.injEq] at stepped
      obtain ⟨idle, rfl⟩ := stepped
      have slots := sound.slots
      rw [← sound.sameConfig] at slots
      exact handed_begin idle slots
  | thread action =>
      simp only [Emulation.step, Option.ite_none_right_eq_some, Option.map_eq_some_iff] at stepped
      obtain ⟨isThread, gadget, moved, rfl⟩ := stepped
      have fewHere : s.receiver.transport.numInterfaces.toNat ≤ 4 := by
        rw [sound.interfaces]
        exact few
      change (handed gadget).map hostReads = _ ++ []
      rw [handed_of_thread fewHere isThread moved, List.append_nil]

/-- In every run each send that found a handle hands over one transfer, in order: the
state last set on the slot of a `send_input`, whatever the threads did between its
lookup and its `EP_WRITE`, or the packet of a `send_raw_input`. The host reads exactly
those whose `EP_WRITE` the kernel accepted. -/
theorem hostReads_of_run (few : config.numInterfaces.toNat ≤ 4) {fd : Int32} {kernel : K}
    {actions : List EmulationAction} {finish : Emulation K}
    (runs : (emulation os).run (.new config fd kernel) actions = some finish) :
    (handed finish.gadget).map hostReads =
        (emulation os).image handsOver (.new config fd kernel) actions ∧
      (accepted finish.gadget.world.log).map hostReads =
        whereAccepted ((emulation os).image handsOver (.new config fd kernel) actions)
          (writeReplies finish.gadget.world.log) := by
  have all : (handed finish.gadget).map hostReads =
      (emulation os).image handsOver (.new config fd kernel) actions :=
    (emulation os).run_emits handsOver (Emulation.Sound config) Emulation.Sound.step
      (fun s => (handed s.gadget).map hostReads) (handed_step few)
      (sound_new config fd kernel) runs
  exact ⟨all, all ▸ map_accepted hostReads finish.gadget⟩

end Runs

/-- The host configures the device, the owner presses A, and the bus is reset between
the lookup of the send and its `EP_WRITE`. -/
def resetInTheGap : List EmulationAction :=
  [.thread (.fetch (.ok (.setConfiguration 1))),
    .call (.setState 0 { InputState.default with a := true }), .call (.sendInput 0),
    .thread (.fetch (.ok .reset)), .thread .epWrite]

/-- The endpoint that the lookup found still gets the press. -/
theorem hostReads_of_run_reset : ∃ finish,
    (emulation .counting).run (.new oneSlot 3 0) resetInTheGap = some finish ∧
      (accepted finish.gadget.world.log).map hostReads =
        [(0, some { InputState.default with a := true })] := by
  have runs : (emulation .counting).run (.new oneSlot 3 0) resetInTheGap = some _ := rfl
  refine ⟨_, runs, (hostReads_of_run (by decide) runs).2.trans ?_⟩
  rfl

end X360Gadget.Session
