import Mathlib.Data.Vector.Basic
import X360Gadget.Kernel.RawGadget
import X360Gadget.Protocol.Output
import X360Gadget.Std.Outcome

/-!
# Output reports between the reader threads and the caller

An `ep_out_loop` thread turns each packet into at most one report and sends it
on the channel. The caller drains the channel into two buffers for each slot
before every poll. `waitingRumble` and `waitingLed` overlay the channel over the
buffers, so a drain is invisible through them.
-/

namespace X360Gadget.Transport

open X360Gadget.Kernel X360Gadget.Protocol X360Gadget.Std

/-! ## The reader's side -/

/-- What one iteration of `ep_out_loop` ends with. -/
inductive EpOutNext where
  | send (report : OutputReport)
  | again
  | exit
deriving DecidableEq, Repr

/-- One iteration, given the result of its `EP_READ`: the return value and the
transfer buffer, or an error. -/
def epOutIteration (read : Except Errno (Int32 × IoBuffer 32)) : Except Panic EpOutNext :=
  match read with
  | .ok (n, data) =>
      if 0 < n.toInt then
        if n.toInt.toNat ≤ 32 then
          match OutputReport.fromBytes (data.bytes.take n.toInt.toNat) with
          | some report => .ok (.send report)
          | none => .ok .again
        else
          .error .outOfBounds
      else
        .ok .again
  | .error errno => if errno = eintr then .ok .again else .ok .exit

/-- `EP_READ` delivering a packet that fits the transfer buffer. -/
def packetRead (bytes : List UInt8) (bounded : bytes.length ≤ 32) :
    Except Errno (Int32 × IoBuffer 32) :=
  .ok (Int32.ofNat bytes.length, ⟨bytes, bounded⟩)

/-- A packet is sent exactly when it parses. -/
theorem epOutIteration_packetRead {bytes : List UInt8} (bounded : bytes.length ≤ 32) :
    epOutIteration (packetRead bytes bounded) =
      match OutputReport.fromBytes bytes with
      | some report => .ok (.send report)
      | none => .ok .again := by
  have size : (Int32.ofNat bytes.length).toInt = bytes.length :=
    Int32.toInt_ofNat_of_lt (by omega)
  have contents : (IoBuffer.bytes ⟨bytes, bounded⟩ : List UInt8).take bytes.length = bytes := by
    simp [IoBuffer.bytes]
  cases bytes with
  | nil => rfl
  | cons first rest =>
      have positive : (0 : Int) < ((first :: rest).length : Nat) := by simp
      simp only [epOutIteration, packetRead, size, Int.toNat_natCast, if_pos positive,
        if_pos bounded, contents]

/-! ## The caller's side -/

/-- Reports waiting in the channel, oldest first, and in the per-slot buffers. -/
structure OutputBuffers where
  outputRx : List (UInt8 × OutputReport)
  rumbleBuf : Vector (Option RumbleReport) 4
  ledBuf : Vector (Option LedReport) 4
deriving DecidableEq, Repr

namespace OutputBuffers

/-- Empty cells and an empty channel. -/
def new : OutputBuffers where
  outputRx := []
  rumbleBuf := Vector.replicate 4 none
  ledBuf := Vector.replicate 4 none

/-- A reader thread sends on the channel. -/
def send (self : OutputBuffers) (slot : UInt8) (report : OutputReport) : OutputBuffers :=
  { self with outputRx := self.outputRx ++ [(slot, report)] }

/-- What the drain does with one received report; a slot out of range is dropped. -/
def receive (self : OutputBuffers) : UInt8 × OutputReport → OutputBuffers
  | (slot, report) =>
      if slot.toNat < 4 then
        match report with
        | .rumble r => { self with rumbleBuf := self.rumbleBuf.setIfInBounds slot.toNat (some r) }
        | .led l => { self with ledBuf := self.ledBuf.setIfInBounds slot.toNat (some l) }
      else
        self

/-- Receive everything sent so far. -/
def drainOutputChannel (self : OutputBuffers) : OutputBuffers :=
  self.outputRx.foldl receive { self with outputRx := [] }

/-- The newest undelivered rumble report of a slot. -/
def pollRumble (self : OutputBuffers) (interface : UInt8) :
    Outcome OutputBuffers (Option RumbleReport × OutputBuffers) :=
  let self := self.drainOutputChannel
  if inRange : interface.toNat < 4 then
    .ok (self.rumbleBuf[interface.toNat],
      { self with rumbleBuf := self.rumbleBuf.setIfInBounds interface.toNat none })
  else
    .error (.outOfBounds, self)

/-- The newest undelivered LED report of a slot. -/
def pollLed (self : OutputBuffers) (interface : UInt8) :
    Outcome OutputBuffers (Option LedReport × OutputBuffers) :=
  let self := self.drainOutputChannel
  if inRange : interface.toNat < 4 then
    .ok (self.ledBuf[interface.toNat],
      { self with ledBuf := self.ledBuf.setIfInBounds interface.toNat none })
  else
    .error (.outOfBounds, self)

/-! ## The channel overlaid on the buffers -/

section Overlay

variable {Report : Type} (kind : OutputReport → Option Report)

/-- The part of `receive` that concerns the buffers of one kind of report. -/
def store (buf : Vector (Option Report) 4) : UInt8 × OutputReport → Vector (Option Report) 4
  | (slot, report) =>
      match kind report with
      | some r => buf.setIfInBounds slot.toNat (some r)
      | none => buf

/-- What a slot's buffer would hold after draining `queue`. -/
def overlay (queue : List (UInt8 × OutputReport)) (buf : Vector (Option Report) 4)
    (slot : UInt8) : Option Report :=
  (queue.foldl (store kind) buf)[slot.toNat]?.join

@[simp] theorem overlay_nil (buf : Vector (Option Report) 4) (slot : UInt8) :
    overlay kind [] buf slot = buf[slot.toNat]?.join := rfl

/-- Emptying a cell leaves the others alone. -/
theorem overlay_cleared (buf : Vector (Option Report) 4) (slot interface : UInt8) :
    overlay kind [] (buf.setIfInBounds interface.toNat none) slot =
      if slot = interface then none else overlay kind [] buf slot := by
  have differ : interface.toNat = slot.toNat ↔ slot = interface := by
    rw [← UInt8.toNat_inj, eq_comm]
  simp only [overlay_nil, Vector.getElem?_setIfInBounds, differ]
  split
  · split <;> rfl
  · rfl

/-- The newest report of the channel hides what is below it in its own cell. -/
theorem overlay_concat {queue : List (UInt8 × OutputReport)} {buf : Vector (Option Report) 4}
    {slot sender : UInt8} {report : OutputReport} (inRange : slot.toNat < 4) :
    overlay kind (queue ++ [(sender, report)]) buf slot =
      if slot = sender then (kind report).or (overlay kind queue buf slot)
      else overlay kind queue buf slot := by
  have differ : sender.toNat = slot.toNat ↔ slot = sender := by
    rw [← UInt8.toNat_inj, eq_comm]
  simp only [overlay, List.foldl_concat]
  generalize queue.foldl (store kind) buf = drained
  cases recognised : kind report with
  | none => simp [store, recognised]
  | some r =>
      simp only [store, recognised, Vector.getElem?_setIfInBounds, differ, Option.some_or]
      by_cases same : slot = sender
      · subst same
        simp [inRange]
      · simp [same]

end Overlay

/-- The rumble report inside an output report. -/
def rumble? : OutputReport → Option RumbleReport
  | .rumble r => some r
  | .led _ => none

/-- The LED report inside an output report. -/
def led? : OutputReport → Option LedReport
  | .rumble _ => none
  | .led l => some l

/-- Receiving stores the report in the buffers of its kind. -/
theorem receive_eq (self : OutputBuffers) (item : UInt8 × OutputReport) :
    self.receive item = { self with
      rumbleBuf := store rumble? self.rumbleBuf item
      ledBuf := store led? self.ledBuf item } := by
  obtain ⟨slot, report⟩ := item
  by_cases inRange : slot.toNat < 4
  · cases report <;> simp [receive, inRange, store, rumble?, led?]
  · -- Out of range `setIfInBounds` drops the report as the guard does.
    have outside : 4 ≤ slot.toNat := Nat.le_of_not_lt inRange
    cases report <;>
      simp [receive, inRange, store, rumble?, led?, Vector.setIfInBounds_eq_of_size_le outside]

/-- The drain leaves the channel empty and both kinds of buffers overlaid. -/
theorem drainOutputChannel_eq (self : OutputBuffers) :
    self.drainOutputChannel = {
      outputRx := []
      rumbleBuf := self.outputRx.foldl (store rumble?) self.rumbleBuf
      ledBuf := self.outputRx.foldl (store led?) self.ledBuf } := by
  have fold : ∀ (queue : List (UInt8 × OutputReport)) (out : OutputBuffers),
      queue.foldl receive out = { out with
        rumbleBuf := queue.foldl (store rumble?) out.rumbleBuf
        ledBuf := queue.foldl (store led?) out.ledBuf } := by
    intro queue
    induction queue with
    | nil => exact fun _ => rfl
    | cons item rest ih =>
        intro out
        rw [List.foldl_cons, receive_eq, ih]
        rfl
  exact fold _ _

/-- What a poll of rumble finds. -/
def waitingRumble (self : OutputBuffers) (slot : UInt8) : Option RumbleReport :=
  overlay rumble? self.outputRx self.rumbleBuf slot

/-- What a poll of LED finds. -/
def waitingLed (self : OutputBuffers) (slot : UInt8) : Option LedReport :=
  overlay led? self.outputRx self.ledBuf slot

section Waiting

variable (self : OutputBuffers) {slot : UInt8}

@[simp] theorem waitingRumble_new : OutputBuffers.new.waitingRumble slot = none := by
  simp only [waitingRumble, new, overlay_nil, Vector.getElem?_replicate]
  split <;> rfl

@[simp] theorem waitingLed_new : OutputBuffers.new.waitingLed slot = none := by
  simp only [waitingLed, new, overlay_nil, Vector.getElem?_replicate]
  split <;> rfl

@[simp] theorem waitingRumble_drainOutputChannel :
    self.drainOutputChannel.waitingRumble slot = self.waitingRumble slot := by
  simp [drainOutputChannel_eq, waitingRumble, overlay]

@[simp] theorem waitingLed_drainOutputChannel :
    self.drainOutputChannel.waitingLed slot = self.waitingLed slot := by
  simp [drainOutputChannel_eq, waitingLed, overlay]

/-- A sent report replaces what waits in its own cell. -/
theorem waitingRumble_send {sender : UInt8} {report : OutputReport} (inRange : slot.toNat < 4) :
    (self.send sender report).waitingRumble slot =
      if slot = sender then (rumble? report).or (self.waitingRumble slot)
      else self.waitingRumble slot :=
  overlay_concat rumble? inRange

/-- A sent report replaces what waits in its own cell. -/
theorem waitingLed_send {sender : UInt8} {report : OutputReport} (inRange : slot.toNat < 4) :
    (self.send sender report).waitingLed slot =
      if slot = sender then (led? report).or (self.waitingLed slot)
      else self.waitingLed slot :=
  overlay_concat led? inRange

/-- The buffers after a poll of rumble. -/
def takeRumble (interface : UInt8) : OutputBuffers :=
  { self.drainOutputChannel with
    rumbleBuf := self.drainOutputChannel.rumbleBuf.setIfInBounds interface.toNat none }

/-- The buffers after a poll of LED. -/
def takeLed (interface : UInt8) : OutputBuffers :=
  { self.drainOutputChannel with
    ledBuf := self.drainOutputChannel.ledBuf.setIfInBounds interface.toNat none }

/-- A poll of rumble returns what waits. -/
theorem pollRumble_eq {interface : UInt8} (inRange : interface.toNat < 4) :
    self.pollRumble interface = .ok (self.waitingRumble interface, self.takeRumble interface) := by
  have found : self.drainOutputChannel.rumbleBuf[interface.toNat]?.join =
      self.waitingRumble interface := by
    rw [drainOutputChannel_eq]
    rfl
  rw [pollRumble, dif_pos inRange, ← found, Vector.getElem?_eq_getElem inRange]
  rfl

/-- A poll of LED returns what waits. -/
theorem pollLed_eq {interface : UInt8} (inRange : interface.toNat < 4) :
    self.pollLed interface = .ok (self.waitingLed interface, self.takeLed interface) := by
  have found : self.drainOutputChannel.ledBuf[interface.toNat]?.join =
      self.waitingLed interface := by
    rw [drainOutputChannel_eq]
    rfl
  rw [pollLed, dif_pos inRange, ← found, Vector.getElem?_eq_getElem inRange]
  rfl

/-- A poll of rumble empties its own cell and no other. -/
theorem waitingRumble_takeRumble {interface : UInt8} :
    (self.takeRumble interface).waitingRumble slot =
      if slot = interface then none else self.waitingRumble slot := by
  rw [takeRumble, drainOutputChannel_eq]
  exact overlay_cleared rumble? _ slot interface

/-- A poll of LED empties its own cell and no other. -/
theorem waitingLed_takeLed {interface : UInt8} :
    (self.takeLed interface).waitingLed slot =
      if slot = interface then none else self.waitingLed slot := by
  rw [takeLed, drainOutputChannel_eq]
  exact overlay_cleared led? _ slot interface

@[simp] theorem waitingLed_takeRumble {interface : UInt8} :
    (self.takeRumble interface).waitingLed slot = self.waitingLed slot :=
  self.waitingLed_drainOutputChannel

@[simp] theorem waitingRumble_takeLed {interface : UInt8} :
    (self.takeLed interface).waitingRumble slot = self.waitingRumble slot :=
  self.waitingRumble_drainOutputChannel

end Waiting

end OutputBuffers

end X360Gadget.Transport
