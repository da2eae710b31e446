import X360Gadget.Protocol.Input
import X360Gadget.Std.Machine
import X360Gadget.Transport.Ep0
import X360Gadget.Transport.OutputPipeline

/-!
# The whole transport

The ep0 thread, the reader threads and the caller, taking steps in any order.
`write_input_report` is two steps, the locked lookup and the later `EP_WRITE`;
the caller does nothing else between them. `gadget_worldStep` says everything a
step can do to the world, so a proof about runs is a case analysis on it.
-/

namespace X360Gadget.Transport

open X360Gadget.Descriptors X360Gadget.Kernel X360Gadget.Protocol X360Gadget.Std

variable {K : Type}

/-! ## The caller's side -/

/-- `ep_in_handle`: an index out of range panics while the lock is held. -/
def epInHandle (slot : UInt8) (w : Ep0World K) : Outcome (Ep0World K) (Option Int32) :=
  if w.poisoned then
    .error (.poisonedLock, w)
  else if inRange : slot.toNat < 4 then
    .ok w.shared.epIn[slot.toNat]
  else
    .error (.outOfBounds, { w with poisoned := true })

/-- The transfer `write_input_report` makes of a report; the handle goes `as u16`. -/
def inputReportIo (ep : Int32) (report : InputReport) : UsbRawInterruptEpIo where
  inner := { ep := ep.toUInt32.toUInt16, flags := 0, length := UInt32.ofNat inputReportLen }
  data := ⟨report.asBytes, by rw [InputReport.length_asBytes]; decide⟩

/-- A `write_input_report` call that has found its handle. -/
structure PendingWrite where
  slot : UInt8
  report : InputReport
  ep : Int32
deriving DecidableEq, Repr

/-! ## The machine -/

/-- Every thread of the process and what they share. -/
structure Gadget (K : Type) where
  world : Ep0World K
  ep0Alive : Bool
  output : OutputBuffers
  writing : Option PendingWrite
  closed : Bool
deriving DecidableEq, Repr

/-- After `RawGadgetTransport::new`. -/
def Gadget.new (kernel : K) : Gadget K where
  world := Ep0World.new kernel
  ep0Alive := true
  output := OutputBuffers.new
  writing := none
  closed := false

/-- The caller may start an operation. -/
def Gadget.CallerIdle (g : Gadget K) : Prop :=
  g.closed = false ∧ g.writing = none

instance (g : Gadget K) : Decidable g.CallerIdle :=
  inferInstanceAs (Decidable (_ ∧ _))

/-- One step of one thread. -/
inductive GadgetAction where
  /-- The ep0 thread's `EVENT_FETCH` returns. -/
  | fetch (result : Except Errno UsbRawControlEvent)
  /-- A reader thread's `EP_READ` returns. -/
  | epOut (reader : Reader) (read : Except Errno (Int32 × IoBuffer 32))
  /-- `write_input_report` up to the release of the lock. -/
  | lookup (slot : UInt8) (report : InputReport)
  /-- The rest of `write_input_report`. -/
  | epWrite
  | poll (kind : ReportKind) (slot : UInt8)
  /-- `wait_ready` returns or panics. -/
  | waitReady
  | writeDescriptor
  | drop
deriving DecidableEq

/-- A reader thread ends. -/
def endReader (reader : Reader) (w : Ep0World K) : Ep0World K :=
  { w with readers := w.readers.erase reader }

section Step

variable (os : Os K) (numInterfaces : UInt8) (desc : DescriptorBytes)

/-- The ep0 thread takes an iteration. -/
def stepFetch (g : Gadget K) (result : Except Errno UsbRawControlEvent) : Gadget K :=
  match ep0Iteration os numInterfaces desc result g.world with
  | .ok (.again, w) => { g with world := w }
  | .ok (.exit, w) => { g with world := w, ep0Alive := false }
  | .error (_, w) => { g with world := w, ep0Alive := false }

/-- A reader thread takes an iteration; sending fails once the receiver is gone. -/
def stepEpOut (g : Gadget K) (reader : Reader) (read : Except Errno (Int32 × IoBuffer 32)) :
    Gadget K :=
  match epOutIteration read with
  | .ok (.send report) =>
      if g.closed then { g with world := endReader reader g.world }
      else { g with output := g.output.send reader.slot report }
  | .ok .again => g
  | .ok .exit => { g with world := endReader reader g.world }
  | .error _ => { g with world := endReader reader g.world }

/-- The locked lookup of `write_input_report`; without a handle the call is over. -/
def stepLookup (g : Gadget K) (slot : UInt8) (report : InputReport) : Gadget K :=
  match epInHandle slot g.world with
  | .ok (some ep) => { g with writing := some { slot, report, ep } }
  | .ok none => g
  | .error (_, w) => { g with world := w }

/-- The step of a thread, where it can take one. -/
def Gadget.step (g : Gadget K) : GadgetAction → Option (Gadget K)
  | .fetch result => if g.ep0Alive then some (stepFetch os numInterfaces desc g result) else none
  | .epOut reader read => if reader ∈ g.world.readers then some (stepEpOut g reader read) else none
  | .lookup slot report => if g.CallerIdle then some (stepLookup g slot report) else none
  | .epWrite =>
      match g.writing with
      | some write => some { g with
          world := g.world.issue os (.epWrite (inputReportIo write.ep write.report))
          writing := none }
      | none => none
  | .poll kind slot =>
      if g.CallerIdle then some { g with output := afterPoll (kind.poll g.output slot) } else none
  | .waitReady =>
      if g.CallerIdle ∧ (g.world.poisoned ∨ g.world.shared.ready) then some g else none
  | .writeDescriptor => if g.CallerIdle then some g else none
  | .drop => if g.CallerIdle then some { g with closed := true } else none

/-- The transport as a machine. -/
def gadget : Machine (Gadget K) GadgetAction where
  step := Gadget.step os numInterfaces desc

/-- The steps with their guards. -/
inductive GadgetStep (g : Gadget K) : GadgetAction → Gadget K → Prop where
  | fetch (result : Except Errno UsbRawControlEvent) (alive : g.ep0Alive = true) :
      GadgetStep g (.fetch result) (stepFetch os numInterfaces desc g result)
  | epOut (reader : Reader) (read : Except Errno (Int32 × IoBuffer 32))
      (live : reader ∈ g.world.readers) :
      GadgetStep g (.epOut reader read) (stepEpOut g reader read)
  | lookup (slot : UInt8) (report : InputReport) (idle : g.CallerIdle) :
      GadgetStep g (.lookup slot report) (stepLookup g slot report)
  | epWrite (write : PendingWrite) (pending : g.writing = some write) :
      GadgetStep g .epWrite { g with
        world := g.world.issue os (.epWrite (inputReportIo write.ep write.report))
        writing := none }
  | poll (kind : ReportKind) (slot : UInt8) (idle : g.CallerIdle) :
      GadgetStep g (.poll kind slot) { g with output := afterPoll (kind.poll g.output slot) }
  | waitReady (idle : g.CallerIdle) (released : g.world.poisoned ∨ g.world.shared.ready) :
      GadgetStep g .waitReady g
  | writeDescriptor (idle : g.CallerIdle) : GadgetStep g .writeDescriptor g
  | drop (idle : g.CallerIdle) : GadgetStep g .drop { g with closed := true }

variable {os numInterfaces desc} in
/-- Every step the machine takes is one of these. -/
theorem gadget_step {g next : Gadget K} {action : GadgetAction}
    (stepped : (gadget os numInterfaces desc).step g action = some next) :
    GadgetStep os numInterfaces desc g action next := by
  change g.step os numInterfaces desc action = some next at stepped
  cases action with
  | epWrite =>
      simp only [Gadget.step] at stepped
      split at stepped
      · next write pending =>
          cases stepped
          exact .epWrite write pending
      · cases stepped
  | _ =>
      simp only [Gadget.step, Option.ite_none_right_eq_some, Option.some.injEq] at stepped
      obtain ⟨guard, rfl⟩ := stepped
      first
        | exact .fetch _ guard
        | exact .epOut _ _ guard
        | exact .lookup _ _ guard
        | exact .poll _ _ guard
        | exact .waitReady guard.1 guard.2
        | exact .writeDescriptor guard
        | exact .drop guard

end Step

/-! ## What a step does to the world -/

/-- The possible effects of a step on the world. -/
inductive WorldStep (os : Os K) (n : Nat) (w : Ep0World K) : GadgetAction → Ep0World K → Prop where
  | handled (event : UsbRawControlEvent) (w' : Ep0World K)
      (outcome : HandledAs os n event w (.ok w')) :
      WorldStep os n w (.fetch (.ok event)) (markHandled event w')
  | panicked (event : UsbRawControlEvent)
      (blocked : IsDetach event ∨ Configures event → w.poisoned = true) :
      WorldStep os n w (.fetch (.ok event)) w
  | readerEnded (reader : Reader) (read : Except Errno (Int32 × IoBuffer 32)) :
      WorldStep os n w (.epOut reader read) (endReader reader w)
  | poisoned (slot : UInt8) (report : InputReport) :
      WorldStep os n w (.lookup slot report) { w with poisoned := true }
  | wrote (io : UsbRawInterruptEpIo) : WorldStep os n w .epWrite (w.issue os (.epWrite io))
  | unchanged (action : GadgetAction) (noEvent : ∀ event, action ≠ .fetch (.ok event)) :
      WorldStep os n w action w

/-- Every step has one of these effects. -/
theorem gadget_worldStep {os : Os K} {numInterfaces : UInt8} {desc : DescriptorBytes}
    (few : numInterfaces.toNat ≤ 4) {g next : Gadget K} {action : GadgetAction}
    (stepped : (gadget os numInterfaces desc).step g action = some next) :
    WorldStep os numInterfaces.toNat g.world action next.world := by
  cases gadget_step stepped with
  | fetch result alive =>
      cases result with
      | error errno =>
          have same : (stepFetch os numInterfaces desc g (.error errno)).world = g.world := by
            by_cases retry : errno = eagain <;> simp [stepFetch, ep0Iteration, retry]
          rw [same]
          exact .unchanged _ fun _ => by simp
      | ok event =>
          have outcome : HandledAs os numInterfaces.toNat event g.world
              (handleEvent os numInterfaces desc event g.world) := handleEvent_handledAs few
          simp only [stepFetch, ep0Iteration]
          cases returned : handleEvent os numInterfaces desc event g.world with
          | ok w' =>
              rw [returned] at outcome
              exact .handled event w' outcome
          | error panic =>
              obtain ⟨why, w'⟩ := panic
              rw [returned] at outcome
              cases outcome with
              | panicked _ blocked => exact .panicked event blocked
  | epOut reader read live =>
      unfold stepEpOut
      split
      · split
        · exact .readerEnded reader read
        · exact .unchanged _ fun _ => by simp
      · exact .unchanged _ fun _ => by simp
      · exact .readerEnded reader read
      · exact .readerEnded reader read
  | lookup slot report idle =>
      unfold stepLookup epInHandle
      split
      · exact .unchanged _ fun _ => by simp
      · exact .unchanged _ fun _ => by simp
      · next w panicked =>
          split at panicked
          · cases panicked
            exact .unchanged _ fun _ => by simp
          · split at panicked
            · cases panicked
            · cases panicked
              exact .poisoned slot report
  | epWrite write pending => exact .wrote _
  | poll kind slot idle => exact .unchanged _ fun _ => by simp
  | waitReady idle released => exact .unchanged _ fun _ => by simp
  | writeDescriptor idle => exact .unchanged _ fun _ => by simp
  | drop idle => exact .unchanged _ fun _ => by simp

/-! ## What a step does to the endpoint table -/

/-- What a step keeps that handles neither a detach nor a SET_CONFIGURATION. -/
structure Uneventful (w : Ep0World K) (action : GadgetAction) (w' : Ep0World K) : Prop where
  shared : w'.shared = w.shared
  readers : List.Sublist w'.readers w.readers
  log : w'.log = w.log ∨
    ∀ event, w'.log.getLast? = some (.handled event) → ¬Configures event
  blocked : ∀ event, action = .fetch (.ok event) → IsDetach event ∨ Configures event →
    w.poisoned = true

/-- The steps as the endpoint table sees them. -/
inductive TableStep (os : Os K) (n : Nat) (w : Ep0World K) :
    GadgetAction → Ep0World K → Prop where
  | detached (event : UsbRawControlEvent) (detach : IsDetach event) (sound : w.poisoned = false) :
      TableStep os n w (.fetch (.ok event)) (markHandled event (clearEndpoints w))
  | configured (event : UsbRawControlEvent) (configures : Configures event)
      (sound : w.poisoned = false) :
      TableStep os n w (.fetch (.ok event)) (markHandled event (configured os n w))
  | uneventful (action : GadgetAction) (w' : Ep0World K) (kept : Uneventful w action w') :
      TableStep os n w action w'

/-- The table sees every step in one of three ways. -/
theorem WorldStep.tableStep {os : Os K} {n : Nat} {w w' : Ep0World K} {action : GadgetAction}
    (stepped : WorldStep os n w action w') : TableStep os n w action w' := by
  -- A handled event that neither detaches nor configures is the last entry of the log.
  have handledOther : ∀ {event : UsbRawControlEvent} {v : Ep0World K}, ¬IsDetach event →
      ¬Configures event → v.shared = w.shared → v.readers = w.readers →
      TableStep os n w (.fetch (.ok event)) (markHandled event v) := by
    intro event v attached other shared readers
    refine .uneventful _ _ ⟨shared, readers ▸ List.Sublist.refl _, .inr ?_, ?_⟩
    · intro last isLast
      rw [markHandled, List.getLast?_concat] at isLast
      cases isLast
      exact other
    · rintro _ ⟨⟩ (detach | configures)
      · exact absurd detach attached
      · exact absurd configures other
  cases stepped with
  | handled event w' outcome =>
      cases outcome with
      | ignored attached other => exact handledOther attached other rfl rfl
      | answered attached other call reply => exact handledOther attached other rfl rfl
      | detached detach sound => exact .detached event detach sound
      | configured configures sound => exact .configured event configures sound
  | panicked event blocked =>
      refine .uneventful _ _ ⟨rfl, List.Sublist.refl _, .inl rfl, ?_⟩
      rintro _ ⟨⟩
      exact blocked
  | readerEnded reader read =>
      exact .uneventful _ _ ⟨rfl, List.erase_sublist, .inl rfl, by rintro _ ⟨⟩⟩
  | poisoned slot report =>
      exact .uneventful _ _ ⟨rfl, List.Sublist.refl _, .inl rfl, by rintro _ ⟨⟩⟩
  | wrote io =>
      refine .uneventful _ _ ⟨rfl, List.Sublist.refl _, .inr ?_, by rintro _ ⟨⟩⟩
      intro last isLast
      rw [Ep0World.issue_log, List.getLast?_concat] at isLast
      cases isLast
  | unchanged action noEvent =>
      refine .uneventful _ _ ⟨rfl, List.Sublist.refl _, .inl rfl, ?_⟩
      intro event isEvent
      exact absurd isEvent (noEvent event)

end X360Gadget.Transport
