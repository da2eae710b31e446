import X360Gadget.Kernel.RawGadget

/-!
# Descriptors that are closed

A call on a closed descriptor fails with EBADF and reaches no device; starting a
thread is no call on it. `closingAfter` closes the descriptor behind a thread that is
in the middle of its calls, and `Metered` bounds how many of them still get through.
-/

namespace X360Gadget.Kernel

variable {K : Type}

/-- The call is one on the descriptor. -/
def Syscall.onDevice : Syscall → Bool
  | .spawnEpOut _ _ => false
  | _ => true

/-- The answer EBADF. -/
def SyscallReply.ebadf : SyscallReply := { rv := -1, errno := 9 }

/-- EBADF, as the wrappers report it. -/
@[simp] theorem result_ebadf : SyscallReply.ebadf.result = .error 9 :=
  if_pos (by decide : (-1 : Int32) < 0)

/-- The environment once the descriptor is closed. -/
def refusing (os : Os K) : Os K where
  serve kernel call := if call.onDevice then (.ebadf, kernel) else os.serve kernel call

/-- The environment of a thread whose descriptor is closed once it has begun so many
more calls on it. -/
def closingAfter (os : Os K) : Os (K × Nat) where
  serve state call :=
    let (kernel, left) := state
    if call.onDevice then
      match left with
      | 0 => (.ebadf, (kernel, 0))
      | left + 1 => ((os.serve kernel call).1, ((os.serve kernel call).2, left))
    else ((os.serve kernel call).1, ((os.serve kernel call).2, left))

/-- Only so many more calls on the descriptor get through. -/
structure Metered (os : Os K) (meter : K → Nat) : Prop where
  spends : ∀ kernel call,
    meter (os.serve kernel call).2 = meter kernel - if call.onDevice then 1 else 0
  refuses : ∀ {kernel call}, call.onDevice → meter kernel = 0 → (os.serve kernel call).1 = .ebadf

/-- Through a closed descriptor no call gets. -/
theorem metered_refusing (os : Os K) : Metered (refusing os) fun _ => 0 where
  spends := fun _ _ => (Nat.zero_sub _).symm
  refuses := by
    intro kernel call onDevice none
    simp only [refusing, if_pos onDevice]

/-- As many calls get through as are begun before the descriptor is closed. -/
theorem metered_closingAfter (os : Os K) : Metered (closingAfter os) Prod.snd where
  spends := by
    rintro ⟨kernel, left⟩ call
    cases onDevice : call.onDevice
    · simp [closingAfter, onDevice]
    · cases left <;> simp [closingAfter, onDevice]
  refuses := by
    rintro ⟨kernel, left⟩ call onDevice rfl
    simp [closingAfter, onDevice]

end X360Gadget.Kernel
