import X360Gadget.Session.Hardware
import X360Gadget.Session.Receiver
import X360Gadget.Transport.EndpointTable
import X360Gadget.Transport.InputWrites
import X360Gadget.Transport.OutputSlots

/-!
# Receivers on the hardware

Between two operations of the owner the ep0 thread and the readers take any
steps. The transport of every reachable receiver is then a state of a run of the
whole machine, and what holds of those holds of it: an index past the configured
slots has no endpoint and no report.
-/

namespace X360Gadget.Session

open X360Gadget.Descriptors X360Gadget.Kernel X360Gadget.Protocol X360Gadget.Std
open X360Gadget.Transport WirelessReceiver

variable {K : Type}

namespace RawGadgetTransport

/-- A step of the ep0 thread or of a reader. -/
def background (os : Os K) (before after : RawGadgetTransport K) : Prop :=
  ∃ action g, IsBackground action ∧ (before.machine os).step before.gadget action = some g ∧
    after = { before with gadget := g }

/-- A call of a method is a run of the machine. -/
theorem follows_called {os : Os K} {before after : RawGadgetTransport K}
    (idle : before.gadget.CallerIdle) (called : Called (hardware os) before after) :
    Follows os before after := by
  cases called with
  | nothing => exact .refl idle
  | writeInputReport interface report => exact follows_writeInputReport idle interface report
  | pollRumble interface => exact follows_poll idle .rumble interface
  | pollLed interface => exact follows_poll idle .led interface
  | pollOutput interface => exact follows_pollOutput idle interface

end RawGadgetTransport

open RawGadgetTransport

/-- A receiver on a freshly started hardware transport, its calls recorded. -/
def onHardware (config : ConfigDescriptorSet) (fd : Int32) (kernel : K) :
    WirelessReceiver (Recording (RawGadgetTransport K)) :=
  .new config ⟨.start config fd kernel, []⟩

section Runs

variable {os : Os K} {config : ConfigDescriptorSet} {fd : Int32} {kernel : K}
  {self : WirelessReceiver (Recording (RawGadgetTransport K))}

/-- A background thread may take a step at any time. -/
theorem reachable_background {start : WirelessReceiver (Recording (RawGadgetTransport K))}
    (reached : Reachable (recording (hardware os)) (recorded (background os)) start self)
    (action : GadgetAction) (isBackground : IsBackground action) {g : Gadget K}
    (stepped : (self.transport.transport.machine os).step self.transport.transport.gadget action =
      some g) :
    Reachable (recording (hardware os)) (recorded (background os)) start
      { self with transport := { self.transport with
          transport := { self.transport.transport with gadget := g } } } :=
  reached.environment ⟨⟨action, g, isBackground, stepped, rfl⟩, rfl⟩

/-- The transport of a reachable receiver is reached by the machine. -/
theorem follows_of_reachable
    (reached : Reachable (recording (hardware os)) (recorded (background os))
      (onHardware config fd kernel) self) :
    Follows os (.start config fd kernel) self.transport.transport := by
  induction reached with
  | start => exact .refl ⟨rfl, rfl⟩
  | @operation before reached operation ih =>
      have called := (called_perform (recording (hardware os)) before operation).of_recording
      exact ih.trans (follows_called ih.idle called)
  | environment reached moved ih =>
      obtain ⟨⟨action, g, isBackground, stepped, same⟩, -⟩ := moved
      have idle := callerIdle_of_background ih.idle isBackground stepped
      rw [same]
      exact ih.trans (.single action stepped idle)

/-- The shared state of a reachable receiver is a state of the whole machine. -/
theorem run_of_reachable
    (reached : Reachable (recording (hardware os)) (recorded (background os))
      (onHardware config fd kernel) self) :
    ∃ actions, (Transport.gadget os config.numInterfaces (buildDescriptorBytes config)).run
      (.new kernel) actions = some self.transport.transport.gadget :=
  (follows_of_reachable reached).runs

/-- An index past the slots has no handle. -/
theorem epInHandle_of_reachable (few : config.numInterfaces.toNat ≤ 4)
    (reached : Reachable (recording (hardware os)) (recorded (background os))
      (onHardware config fd kernel) self) {index : UInt8} (beyond : ¬index < config.numInterfaces)
    (ep : Int32) : epInHandle index self.transport.transport.gadget.world ≠ .ok (some ep) := by
  obtain ⟨actions, runs⟩ := run_of_reachable reached
  intro found
  obtain ⟨-, bound, recorded⟩ := epInHandle_eq_some_iff.mp found
  rw [UInt8.lt_iff_toNat_lt, Nat.not_lt] at beyond
  have unused := (tableMatches_of_run few runs).unused index.toNat bound beyond
  cases unused.1.symm.trans recorded

/-- Nothing waits for an index past the slots. -/
theorem waiting_of_reachable (few : config.numInterfaces.toNat ≤ 4)
    (reached : Reachable (recording (hardware os)) (recorded (background os))
      (onHardware config fd kernel) self) {kind : ReportKind} {index : UInt8}
    (beyond : ¬index < config.numInterfaces) (inRange : index.toNat < 4) :
    waiting kind self.transport.transport index = none := by
  obtain ⟨actions, runs⟩ := run_of_reachable reached
  have idle := (follows_of_reachable reached).idle
  rw [UInt8.lt_iff_toNat_lt, Nat.not_lt] at beyond
  exact (outputWithin_of_run few runs).waiting idle.1 kind index beyond inRange

end Runs

end X360Gadget.Session
