import Mathlib.Data.Finset.Basic
import Mathlib.Data.List.TakeWhile
import X360Gadget.Kernel.RawGadget
import X360Gadget.Std.Method

/-!
# Opening the device

The calls between `open("/dev/raw-gadget")` and a running gadget. One opening
makes each of them at most once, so its environment is a function from calls to
replies. The state of a wrapper is the set of the process's raw-gadget
descriptors: `open` adds one and only `close` takes one away.
-/

namespace X360Gadget.Kernel

open X360Gadget.Std

abbrev oNonblock : Int32 := 0x800
abbrev usbSpeedHigh : UInt8 := 3

/-- Argument of `INIT`. -/
structure UsbRawInit where
  driverName : IoBuffer 128
  deviceName : IoBuffer 128
  speed : UInt8
deriving DecidableEq, Repr

/-- A name is cut to 127 bytes, which leaves room for its terminator. -/
def udcName (name : String) : IoBuffer 128 where
  written := name.toUTF8.data.toList.take 127
  bounded := by
    rw [List.length_take]
    omega

/-- The names, each cut to its field, and the speed. -/
def UsbRawInit.new (driver device : String) (speed : UInt8) : UsbRawInit where
  driverName := udcName driver
  deviceName := udcName device
  speed

/-- What the kernel reads in a field for a name: the bytes before the first zero. -/
def IoBuffer.cString {capacity : Nat} (buffer : IoBuffer capacity) : List UInt8 :=
  buffer.bytes.takeWhile (· != 0)

/-- A buffer that is not full is read up to the first zero written or to its end. -/
theorem cString_of_lt {capacity : Nat} {buffer : IoBuffer capacity}
    (room : buffer.written.length < capacity) :
    buffer.cString = buffer.written.takeWhile (· != 0) := by
  obtain ⟨more, last⟩ : ∃ more, capacity - buffer.written.length = more + 1 :=
    Nat.exists_eq_add_one.mpr (Nat.sub_pos_of_lt room)
  rw [IoBuffer.cString, IoBuffer.bytes, last, List.replicate_succ, List.takeWhile_append]
  split
  · next whole =>
      rw [List.takeWhile_cons_of_neg (by decide), List.append_nil]
      exact (List.IsPrefix.eq_of_length (List.takeWhile_prefix _) whole).symm
  · rfl

/-- The kernel reads the name that was given exactly when it fits and holds no zero. -/
theorem cString_udcName_eq_iff {name : String} :
    (udcName name).cString = name.toUTF8.data.toList ↔
      name.toUTF8.data.toList.length ≤ 127 ∧ 0 ∉ name.toUTF8.data.toList := by
  have room : (udcName name).written.length < 128 :=
    Nat.lt_succ_of_le (List.length_take_le 127 _)
  rw [cString_of_lt room, udcName]
  dsimp only
  generalize name.toUTF8.data.toList = given
  constructor
  · intro same
    have fits : given.length ≤ 127 := by
      have within := (List.takeWhile_prefix (l := given.take 127) (· != 0)).length_le
      rw [same, List.length_take] at within
      omega
    rw [List.take_of_length_le fits, List.takeWhile_eq_self_iff] at same
    refine ⟨fits, fun zero => ?_⟩
    exact absurd (same 0 zero) (by decide)
  · rintro ⟨fits, noZero⟩
    rw [List.take_of_length_le fits, List.takeWhile_eq_self_iff]
    intro byte member
    exact bne_iff_ne.mpr fun zero => noZero (zero ▸ member)

/-- A request made while opening, to the kernel or the thread library. -/
inductive OpenCall where
  /-- `open` of the device, for reading and writing. -/
  | device
  /-- `fcntl` with `F_GETFL`. -/
  | getFlags (fd : Int32)
  /-- `fcntl` with `F_SETFL`. -/
  | setFlags (fd flags : Int32)
  | close (fd : Int32)
  | init (fd : Int32) (init : UsbRawInit)
  | run (fd : Int32)
  /-- Start the `ep0_loop` thread. -/
  | spawnEp0 (fd : Int32)
deriving DecidableEq, Repr

/-- What each call of one opening is answered. -/
abbrev OpenReplies := OpenCall → SyscallReply

/-- Every call succeeds and the device is opened as `fd`. -/
def OpenReplies.succeeding (fd : Int32) : OpenReplies
  | .device => { rv := fd, errno := 0 }
  | _ => { rv := 0, errno := 0 }

/-- As `succeeding`, but `INIT` finds the controller busy. -/
def OpenReplies.busy (fd : Int32) : OpenReplies
  | .device => { rv := fd, errno := 0 }
  | .init _ _ => { rv := -1, errno := 16 }
  | _ => { rv := 0, errno := 0 }

/-- A wrapper that only looks for an error; the descriptors stay as they are. -/
def checked (reply : SyscallReply) : Method (Finset Int32) Errno Unit := fun fds =>
  .ok (reply.result.map fun _ => (), fds)

/-- Close the descriptor. -/
def rawGadgetClose (fd : Int32) (fds : Finset Int32) : Finset Int32 := fds.erase fd

section Wrappers

variable (replies : OpenReplies)

/-- The driver rejects `O_NONBLOCK` on `open`, so it is set afterwards. -/
def rawGadgetOpenNonblock : Method (Finset Int32) Errno Int32 := fun fds =>
  let fd := (replies .device).rv
  if fd < 0 then
    .ok (.error (replies .device).errno, fds)
  else
    let flags := (replies (.getFlags fd)).rv
    if flags < 0 ∨ (replies (.setFlags fd (flags ||| oNonblock))).rv < 0 then
      .ok (.error (replies (.close fd)).errno, (insert fd fds).erase fd)
    else
      .ok (.ok fd, insert fd fds)

/-- Bind the descriptor to a controller. -/
def rawGadgetInit (fd : Int32) (init : UsbRawInit) : Method (Finset Int32) Errno Unit :=
  checked (replies (.init fd init))

/-- Start the gadget. -/
def rawGadgetRun (fd : Int32) : Method (Finset Int32) Errno Unit :=
  checked (replies (.run fd))

/-- `thread::Builder::spawn` of the ep0 thread. -/
def spawnEp0 (fd : Int32) : Method (Finset Int32) Errno Unit :=
  checked (replies (.spawnEp0 fd))

end Wrappers

section Checked

variable {reply : SyscallReply} {fds : Finset Int32}

/-- A call that succeeds leaves the table of descriptors as it is. -/
theorem checked_of_nonneg (succeeded : ¬reply.rv < 0) : checked reply fds = .ok (.ok (), fds) := by
  rw [checked, SyscallReply.result, if_neg succeeded]
  rfl

/-- A call that fails reports its errno and leaves the table of descriptors as it is. -/
theorem checked_of_neg (failed : reply.rv < 0) :
    checked reply fds = .ok (.error reply.errno, fds) := by
  rw [checked, SyscallReply.result, if_pos failed]
  rfl

end Checked

section Obtained

variable {replies : OpenReplies} {fds : Finset Int32}

/-- `open` and both calls of `fcntl` succeed. -/
def ObtainsFd (replies : OpenReplies) : Prop :=
  ¬(replies .device).rv < 0 ∧
    ¬(replies (.getFlags (replies .device).rv)).rv < 0 ∧
      ¬(replies (.setFlags (replies .device).rv
        ((replies (.getFlags (replies .device).rv)).rv ||| oNonblock))).rv < 0

instance : Decidable (ObtainsFd replies) := inferInstanceAs (Decidable (_ ∧ _))

/-- `open` returns no descriptor that is already open. -/
def FreshFd (replies : OpenReplies) (fds : Finset Int32) : Prop :=
  ¬(replies .device).rv < 0 → (replies .device).rv ∉ fds

instance : Decidable (FreshFd replies fds) := inferInstanceAs (Decidable (_ → _))

/-- The descriptor is obtained exactly when all three calls succeed. -/
theorem rawGadgetOpenNonblock_of_obtains (obtains : ObtainsFd replies) :
    rawGadgetOpenNonblock replies fds =
      .ok (.ok (replies .device).rv, insert (replies .device).rv fds) := by
  obtain ⟨opened, got, set⟩ := obtains
  simp only [rawGadgetOpenNonblock]
  rw [if_neg opened, if_neg (not_or.mpr ⟨got, set⟩)]

/-- A failed call is an error, and `fcntl` is cleaned up after. -/
theorem rawGadgetOpenNonblock_of_not_obtains (failed : ¬ObtainsFd replies)
    (fds : Finset Int32) : ∃ errno after,
    rawGadgetOpenNonblock replies fds = .ok (.error errno, after) ∧
      (FreshFd replies fds → after = fds) := by
  simp only [rawGadgetOpenNonblock]
  split
  · exact ⟨_, fds, rfl, fun _ => rfl⟩
  · next opened =>
      split
      · exact ⟨_, _, rfl, fun fresh => Finset.erase_insert (fresh opened)⟩
      · next kept =>
          rw [not_or] at kept
          exact absurd ⟨opened, kept.1, kept.2⟩ failed

end Obtained

end X360Gadget.Kernel
