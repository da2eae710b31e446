import X360Gadget.Kernel.Driver

/-!
# What the kernel takes from a call

A transfer is a header and a buffer, of which the kernel copies as many bytes as
the header counts. `Syscall.transfer` forgets the rest of the buffer, and a driver
that `ReadsTransfers` is blind to what was forgotten. `Os.traced` keeps what the
kernel was given beside its state, so that programs can be compared by their
traces.
-/

namespace X360Gadget.Kernel

variable {K : Type}

/-- A call as the kernel sees it. -/
inductive Transfer where
  | ep0Write (header : UsbRawEpIo) (data : List UInt8)
  | ep0Read (header : UsbRawEpIo)
  | ep0Stall
  | epEnable (desc : UsbEndpointDescriptor)
  | epDisable (ep : Int32)
  | vbusDraw (power : UInt32)
  | configure
  | epWrite (header : UsbRawEpIo) (data : List UInt8)
  | spawnEpOut (slot : UInt8) (epHandle : Int32)
deriving DecidableEq, Repr

/-- Of a write the kernel copies the counted bytes, and of a read only the header. -/
def Syscall.transfer : Syscall → Transfer
  | .ep0Write io => .ep0Write io.inner (io.data.bytes.take io.inner.length.toNat)
  | .ep0Read io => .ep0Read io.inner
  | .ep0Stall => .ep0Stall
  | .epEnable desc => .epEnable desc
  | .epDisable ep => .epDisable ep
  | .vbusDraw power => .vbusDraw power
  | .configure => .configure
  | .epWrite io => .epWrite io.inner (io.data.bytes.take io.inner.length.toNat)
  | .spawnEpOut slot epHandle => .spawnEpOut slot epHandle

/-- The call goes to the device; only the start of a thread does not. -/
def Transfer.toDevice : Transfer → Bool
  | .spawnEpOut _ _ => false
  | _ => true

/-- The kernel answers by what it copies. -/
def ReadsTransfers (os : Os K) : Prop :=
  ∀ k first second, first.transfer = second.transfer → os.serve k first = os.serve k second

/-- The kernel together with everything it was given, oldest first. -/
def Os.traced (os : Os K) : Os (K × List Transfer) where
  serve traced call :=
    ((os.serve traced.1 call).1, ((os.serve traced.1 call).2, traced.2 ++ [call.transfer]))

@[simp] theorem traced_reply (os : Os K) (k : K × List Transfer) (call : Syscall) :
    (os.traced.serve k call).1 = (os.serve k.1 call).1 := rfl

/-- Keeping a trace looks at nothing else. -/
theorem ReadsTransfers.traced {os : Os K} (reads : ReadsTransfers os) :
    ReadsTransfers os.traced := by
  intro k first second same
  have answered := reads k.1 first second same
  simp only [Os.traced, answered, same]

/-- Every call succeeds with zero. -/
def Os.accepting : Os Unit where
  serve _ _ := ({ rv := 0, errno := 0 }, ())

/-- The accepting kernel answers every call with success. -/
theorem Os.accepting_accepts (k : Unit) (call : Syscall) :
    ¬(Os.accepting.serve k call).1.rv < 0 := by
  change ¬(0 : Int32) < 0
  decide

/-- The driver that hands out the lowest handle never looks into a buffer. -/
theorem readsTransfers_lowestHandle : ReadsTransfers Os.lowestHandle := by
  intro enabled first second same
  cases first <;> cases second <;> first
    | rfl
    | cases same
      rfl
    | cases same

end X360Gadget.Kernel
