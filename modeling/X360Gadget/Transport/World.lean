import X360Gadget.Kernel.RawGadget

/-!
# The state the ep0 thread works on

`SharedState` is what the ep0 thread and the caller share under the mutex.
`Ep0World` adds the environment, the mutex's poison flag, the live
`ep_out_loop` threads, and a log of every call the process made and every event
the ep0 thread handled to the end. The log is bookkeeping: no modelled code
reads it.
-/

namespace X360Gadget.Transport

open X360Gadget.Kernel

/-- Endpoint handles for each slot, and whether a configuration completed. -/
structure SharedState where
  epIn : Vector (Option Int32) 4
  epOut : Vector (Option Int32) 4
  ready : Bool
deriving DecidableEq, Repr

namespace SharedState

/-- No endpoint is enabled and the transport is not ready. -/
def new : SharedState where
  epIn := Vector.replicate 4 none
  epOut := Vector.replicate 4 none
  ready := false

/-- Forget every handle and be ready no longer. -/
def clearEndpoints (_self : SharedState) : SharedState where
  epIn := Vector.replicate 4 none
  epOut := Vector.replicate 4 none
  ready := false

end SharedState

/-- A live `ep_out_loop` thread. -/
structure Reader where
  slot : UInt8
  epHandle : Int32
deriving DecidableEq, Repr

/-- The endpoint the thread passes to `EP_READ`: its handle `as u16`. -/
def Reader.ep (reader : Reader) : UInt16 := reader.epHandle.toUInt32.toUInt16

/-- One entry of the log. -/
inductive Interaction where
  | called (call : Syscall) (reply : SyscallReply)
  | handled (event : UsbRawControlEvent)
deriving DecidableEq, Repr

/-- The events the ep0 thread handled, in order. -/
def handledEvents (log : List Interaction) : List UsbRawControlEvent :=
  log.filterMap fun
    | .called _ _ => none
    | .handled event => some event

@[simp] theorem handledEvents_nil : handledEvents [] = [] := rfl

@[simp] theorem handledEvents_append (first second : List Interaction) :
    handledEvents (first ++ second) = handledEvents first ++ handledEvents second :=
  List.filterMap_append

@[simp] theorem handledEvents_called (call : Syscall) (reply : SyscallReply)
    (rest : List Interaction) :
    handledEvents (.called call reply :: rest) = handledEvents rest := rfl

@[simp] theorem handledEvents_handled (event : UsbRawControlEvent) (rest : List Interaction) :
    handledEvents (.handled event :: rest) = event :: handledEvents rest := rfl

/-- Everything the ep0 thread can change. -/
structure Ep0World (K : Type) where
  kernel : K
  log : List Interaction
  shared : SharedState
  poisoned : Bool
  readers : List Reader
deriving DecidableEq, Repr

namespace Ep0World

variable {K : Type}

/-- Before the ep0 thread starts. -/
def new (kernel : K) : Ep0World K where
  kernel
  log := []
  shared := SharedState.new
  poisoned := false
  readers := []

/-- The answer to a call made now. -/
def reply (w : Ep0World K) (os : Os K) (call : Syscall) : SyscallReply :=
  (os.serve w.kernel call).1

/-- The world after a call. -/
def issue (w : Ep0World K) (os : Os K) (call : Syscall) : Ep0World K :=
  { w with
    kernel := (os.serve w.kernel call).2
    log := w.log ++ [.called call (w.reply os call)] }

section Issue

variable (w : Ep0World K) (os : Os K) (call : Syscall)

@[simp] theorem issue_shared : (w.issue os call).shared = w.shared := rfl
@[simp] theorem issue_poisoned : (w.issue os call).poisoned = w.poisoned := rfl
@[simp] theorem issue_readers : (w.issue os call).readers = w.readers := rfl
@[simp] theorem issue_kernel : (w.issue os call).kernel = (os.serve w.kernel call).2 := rfl
@[simp] theorem issue_log : (w.issue os call).log = w.log ++ [.called call (w.reply os call)] := rfl

end Issue

/-- `st.ep_in[i] = Some(h)`, for an index in range. -/
def setEpIn (w : Ep0World K) (i : Nat) (h : Int32) : Ep0World K :=
  { w with shared := { w.shared with epIn := w.shared.epIn.setIfInBounds i (some h) } }

/-- `st.ep_out[i] = Some(h)`, for an index in range. -/
def setEpOut (w : Ep0World K) (i : Nat) (h : Int32) : Ep0World K :=
  { w with shared := { w.shared with epOut := w.shared.epOut.setIfInBounds i (some h) } }

/-- Start an `ep_out_loop` thread; a failed spawn is ignored. -/
def spawnEpOut (w : Ep0World K) (os : Os K) (slot : UInt8) (epHandle : Int32) : Ep0World K :=
  let started := w.issue os (.spawnEpOut slot epHandle)
  match (w.reply os (.spawnEpOut slot epHandle)).result with
  | .ok _ => { started with readers := started.readers ++ [{ slot, epHandle }] }
  | .error _ => started

section Fields

variable (w : Ep0World K) (os : Os K) (i : Nat) (h : Int32) (slot : UInt8)

@[simp] theorem setEpIn_epIn : (w.setEpIn i h).shared.epIn =
    w.shared.epIn.setIfInBounds i (some h) := rfl
@[simp] theorem setEpIn_epOut : (w.setEpIn i h).shared.epOut = w.shared.epOut := rfl
@[simp] theorem setEpIn_ready : (w.setEpIn i h).shared.ready = w.shared.ready := rfl
@[simp] theorem setEpIn_kernel : (w.setEpIn i h).kernel = w.kernel := rfl
@[simp] theorem setEpIn_log : (w.setEpIn i h).log = w.log := rfl
@[simp] theorem setEpIn_poisoned : (w.setEpIn i h).poisoned = w.poisoned := rfl
@[simp] theorem setEpIn_readers : (w.setEpIn i h).readers = w.readers := rfl

@[simp] theorem setEpOut_epIn : (w.setEpOut i h).shared.epIn = w.shared.epIn := rfl
@[simp] theorem setEpOut_epOut : (w.setEpOut i h).shared.epOut =
    w.shared.epOut.setIfInBounds i (some h) := rfl
@[simp] theorem setEpOut_ready : (w.setEpOut i h).shared.ready = w.shared.ready := rfl
@[simp] theorem setEpOut_kernel : (w.setEpOut i h).kernel = w.kernel := rfl
@[simp] theorem setEpOut_log : (w.setEpOut i h).log = w.log := rfl
@[simp] theorem setEpOut_poisoned : (w.setEpOut i h).poisoned = w.poisoned := rfl
@[simp] theorem setEpOut_readers : (w.setEpOut i h).readers = w.readers := rfl

@[simp] theorem spawnEpOut_shared : (w.spawnEpOut os slot h).shared = w.shared := by
  unfold spawnEpOut
  split <;> rfl

@[simp] theorem spawnEpOut_poisoned : (w.spawnEpOut os slot h).poisoned = w.poisoned := by
  unfold spawnEpOut
  split <;> rfl

@[simp] theorem spawnEpOut_kernel :
    (w.spawnEpOut os slot h).kernel = (os.serve w.kernel (.spawnEpOut slot h)).2 := by
  unfold spawnEpOut
  split <;> rfl

@[simp] theorem spawnEpOut_log : (w.spawnEpOut os slot h).log =
    w.log ++ [.called (.spawnEpOut slot h) (w.reply os (.spawnEpOut slot h))] := by
  unfold spawnEpOut
  split <;> rfl

end Fields

end Ep0World

/-- What happened between two worlds of one run. -/
def newEntries {K : Type} (before after : Ep0World K) : List Interaction :=
  after.log.drop before.log.length

/-- The new entries of a log are those that it grew by. -/
theorem newEntries_of_log {K : Type} {before after : Ep0World K} {entries : List Interaction}
    (log : after.log = before.log ++ entries) : newEntries before after = entries := by
  rw [newEntries, log, List.drop_left]

end X360Gadget.Transport
