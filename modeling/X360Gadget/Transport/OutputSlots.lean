import X360Gadget.Transport.OutputDelivery
import X360Gadget.Transport.Readers

/-!
# Which slots have output reports

Readers are started for configured slots only, so nothing ever waits for
another one.
-/

namespace X360Gadget.Transport

open X360Gadget.Descriptors X360Gadget.Kernel X360Gadget.Protocol X360Gadget.Std

variable {K : Type}

/-- Every reader belongs to one of the first `n` slots, and no report waits for
another slot while the transport is open. -/
structure OutputWithin (n : Nat) (g : Gadget K) : Prop where
  readers : ∀ reader ∈ g.world.readers, reader.slot.toNat < n
  waiting : g.closed = false → ∀ (kind : ReportKind) (slot : UInt8), n ≤ slot.toNat →
    slot.toNat < 4 → kind.waiting g.output slot = none

/-- The readers after a step belong to the first `n` slots if those before did. -/
theorem readers_of_tableStep {os : Os K} {n : Nat} {w w' : Ep0World K} {action : GadgetAction}
    (few : n ≤ 4) (within : ∀ reader ∈ w.readers, reader.slot.toNat < n)
    (stepped : TableStep os n w action w') : ∀ reader ∈ w'.readers, reader.slot.toNat < n := by
  cases stepped with
  | detached event detach sound => exact within
  | configured event configures sound =>
      intro reader member
      change reader ∈ (configured os n w).readers at member
      rw [configured_readers, List.mem_append] at member
      rcases member with old | new
      · exact within reader old
      · obtain ⟨i, inRange, started⟩ := List.mem_filterMap.mp new
        have below : i < n := List.mem_range.mp inRange
        rw [(spawnAnswer_eq_some started).1, UInt8.toNat_ofNat']
        omega
  | uneventful action w' kept =>
      intro reader member
      exact within reader (kept.readers.mem member)

section Runs

variable {os : Os K} {numInterfaces : UInt8} {desc : DescriptorBytes} {g next : Gadget K}

/-- Every step of any thread keeps the output within the configured slots. -/
theorem OutputWithin.step {action : GadgetAction} (few : numInterfaces.toNat ≤ 4)
    (within : OutputWithin numInterfaces.toNat g)
    (stepped : (gadget os numInterfaces desc).step g action = some next) :
    OutputWithin numInterfaces.toNat next := by
  refine ⟨readers_of_tableStep few within.readers (gadget_worldStep few stepped).tableStep, ?_⟩
  intro opened kind slot beyond inRange
  obtain ⟨openedBefore, output⟩ := output_step stepped opened
  have before := within.waiting openedBefore kind slot beyond inRange
  rw [output]
  cases projected : action.output? with
  | none => exact before
  | some observed =>
      rw [Option.elim_some]
      cases observed with
      | poll polled interface =>
          rw [pipelineStep, ReportKind.waiting_afterPoll inRange, before]
          split <;> rfl
      | epOut sender read =>
          -- The sender is a live reader, so its slot is configured.
          have ofReader : sender.toNat < numInterfaces.toNat := by
            cases gadget_step stepped with
            | epOut reader result live =>
                cases result with
                | error errno => cases projected
                | ok pair =>
                    obtain ⟨n, data⟩ := pair
                    obtain ⟨received, -, same⟩ := Option.map_eq_some_iff.mp projected
                    cases same
                    exact within.readers reader live
            | _ => cases projected
          have other : slot ≠ sender := by
            rintro rfl
            omega
          rw [pipelineStep_epOut]
          split
          · rw [ReportKind.waiting_send inRange, if_neg other, before]
          · exact before

/-- In every reachable state the output stays within the configured slots. -/
theorem outputWithin_of_run {kernel : K} {actions : List GadgetAction}
    (few : numInterfaces.toNat ≤ 4)
    (runs : (gadget os numInterfaces desc).run (.new kernel) actions = some g) :
    OutputWithin numInterfaces.toNat g := by
  refine (gadget os numInterfaces desc).run_invariant (OutputWithin numInterfaces.toNat) ?_ ?_ runs
  · intro state action next within stepped
    exact within.step few stepped
  · refine ⟨?_, ?_⟩
    · intro reader member
      cases member
    · intro _ kind slot _ _
      exact ReportKind.waiting_new

end Runs

end X360Gadget.Transport
