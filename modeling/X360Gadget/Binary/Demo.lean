import X360Gadget.Session.InputPath
import X360Gadget.Transport.Lifetime

/-!
# The loop of the binary

Ten times a second `main` sends the state of every slot and prints what the host
sent back; in demo mode it presses or releases A on all slots every ten rounds.
`mainLoop` is this loop beside the threads of the gadget, in the release build, where
the counter of the rounds wraps around (a debug build panics there). `demo_hostReads`
says what the loop hands over and what the host reads of it, whatever those threads do:
each send that finds an endpoint shows A held in every other second, and no call ever
panics.
-/

namespace X360Gadget.Binary

open X360Gadget.Descriptors X360Gadget.Kernel X360Gadget.Protocol X360Gadget.Std
open X360Gadget.Session X360Gadget.Transport WirelessReceiver

variable {K : Type}

/-! ## The loop -/

/-- Where the loop stands: before a call for a slot, or asleep. -/
inductive Point where
  | sleep
  | setState (slot : UInt8)
  | sendInput (slot : UInt8)
  | pollOutput (slot : UInt8)
  /-- A call panicked and the process ended. -/
  | panicked
deriving DecidableEq, Repr

/-- The receiver beside its threads, and the variables of the loop. -/
structure Main (K : Type) where
  emulation : Emulation K
  tick : UInt32
  aPressed : Bool
  point : Point
  /-- What was printed: the reports of the host with their slots. -/
  printed : List (UInt8 × OutputReport)

/-- The main thread wakes or makes its next call, or another thread steps. -/
inductive MainAction where
  /-- The sleep is over. -/
  | wake
  /-- The next call of the loop. -/
  | call
  | thread (action : GadgetAction)
deriving DecidableEq

/-- `for slot in 0..num_interfaces` at a slot, and what follows the loop. -/
def forSlot (numInterfaces slot : UInt8) (body : UInt8 → Point) (after : Point) : Point :=
  if slot < numInterfaces then body slot else after

section Step

variable (os : Os K) (numInterfaces : UInt8) (demoMode : Bool)

/-- Before the loop over the polls. -/
def polls : Point := forSlot numInterfaces 0 .pollOutput .sleep

/-- Before the loop over the sends. -/
def sends : Point := forSlot numInterfaces 0 .sendInput (polls numInterfaces)

/-- A round starts; `tick += 1` wraps around in the release build. -/
def Main.wake (s : Main K) : Main K :=
  let tick := s.tick + 1
  if demoMode ∧ tick % 10 = 0 then
    { s with tick, aPressed := !s.aPressed
             point := forSlot numInterfaces 0 .setState (sends numInterfaces) }
  else
    { s with tick, point := sends numInterfaces }

/-- The call that is due, its result and where it leads. -/
def Main.call (s : Main K) : Option (Main K) :=
  let receiver := s.emulation.receiver
  match s.point with
  | .setState slot =>
      let state := InputState.default.withButton .a s.aPressed
      (s.emulation.step os (.call (.setState slot state))).map fun emulation =>
        { s with emulation
                 point := forSlot numInterfaces (slot + 1) .setState (sends numInterfaces) }
  | .sendInput slot =>
      (s.emulation.step os (.call (.sendInput slot))).map fun emulation =>
        { s with emulation
                 point := match (WirelessReceiver.sendInput (hardware os) slot).result receiver with
                   | some _ => forSlot numInterfaces (slot + 1) .sendInput (polls numInterfaces)
                   | none => .panicked }
  | .pollOutput slot =>
      (s.emulation.step os (.call (.pollOutput slot))).map fun emulation =>
        match (WirelessReceiver.pollOutput (hardware os) slot).result receiver with
        | some (.ok (some report)) =>
            { s with emulation, printed := s.printed ++ [(slot, report)] }
        | some _ =>
            { s with emulation, point := forSlot numInterfaces (slot + 1) .pollOutput .sleep }
        | none => { s with emulation, point := .panicked }
  | .sleep | .panicked => none

/-- One step of the program. -/
def Main.step (s : Main K) : MainAction → Option (Main K)
  | .wake =>
      if s.point = .sleep ∧ s.emulation.gadget.CallerIdle then
        some (s.wake numInterfaces demoMode)
      else none
  | .call => s.call os numInterfaces
  | .thread action =>
      (s.emulation.step os (.thread action)).map fun emulation => { s with emulation }

/-- `main` from its loop on, beside the threads it started. -/
def mainLoop : Machine (Main K) MainAction where
  step := Main.step os numInterfaces demoMode

end Step

/-- Before the first round. -/
def Main.new (config : ConfigDescriptorSet) (fd : Int32) (kernel : K) : Main K where
  emulation := .new config fd kernel
  tick := 0
  aPressed := false
  point := .sleep
  printed := []

/-! ## What the host is to see -/

/-- A is held in every other group of ten rounds, in demo mode: a tenth of the round's
number is odd. -/
def held (demoMode : Bool) (tick : UInt32) : Bool := demoMode && tick / 10 % 2 = 1

/-- The controls of every slot in a round. -/
def demoState (demoMode : Bool) (tick : UInt32) : InputState :=
  InputState.default.withButton .a (held demoMode tick)

/-- What the step of the loop shows to the host. -/
def shows (demoMode : Bool) (s : Main K) : MainAction → Option (UInt16 × Option InputState)
  | .call =>
      match s.point with
      | .sendInput slot => (endpoint s.emulation.gadget slot).map fun ep =>
          (ep, some (demoState demoMode s.tick))
      | _ => none
  | _ => none

/-- Tens change their parity at each multiple of ten. -/
theorem parity_succ (t : Nat) :
    ((t + 1) % 10 = 0 → ((t + 1) / 10 % 2 = 1 ↔ ¬t / 10 % 2 = 1)) ∧
      (¬(t + 1) % 10 = 0 → ((t + 1) / 10 % 2 = 1 ↔ t / 10 % 2 = 1)) := by
  have split := Nat.div_add_mod t 10
  constructor
  · intro tenth
    have quotient : (t + 1) / 10 = t / 10 + 1 := by omega
    rw [quotient]
    omega
  · intro other
    have quotient : (t + 1) / 10 = t / 10 := by omega
    rw [quotient]

/-- A is not held in the first round. -/
theorem held_zero (demoMode : Bool) : held demoMode 0 = false := by
  cases demoMode <;> decide

/-- A toggles with every tenth round, also where the counter wraps around. -/
theorem held_succ (demoMode : Bool) (tick : UInt32) : held demoMode (tick + 1) =
    if demoMode ∧ (tick + 1) % 10 = 0 then !held demoMode tick else held demoMode tick := by
  have bound : tick.toNat < 4294967296 := tick.toNat_lt
  have next : (tick + 1).toNat = (tick.toNat + 1) % 4294967296 := UInt32.toNat_add tick 1
  have isHeld : ∀ t : UInt32, (t / 10 % 2 = 1) ↔ t.toNat / 10 % 2 = 1 := by
    intro t
    rw [← UInt32.toNat_inj, UInt32.toNat_mod, UInt32.toNat_div]
    rfl
  have isTenth : (tick + 1) % 10 = 0 ↔ (tick + 1).toNat % 10 = 0 := by
    rw [← UInt32.toNat_inj, UInt32.toNat_mod]
    rfl
  cases demoMode with
  | false => simp [held]
  | true =>
      simp only [held, isHeld, Bool.true_and, true_and]
      by_cases wraps : tick.toNat = 4294967295
      · -- The last count is an odd number of tens, so the wrap toggles like any other.
        have zero : (tick + 1).toNat = 0 := by
          rw [next, wraps]
        rw [if_pos (isTenth.mpr (by rw [zero])), zero, wraps]
        rfl
      · rw [Nat.mod_eq_of_lt (by omega)] at next
        by_cases tenth : (tick + 1) % 10 = 0
        · rw [if_pos tenth, ← decide_not, decide_eq_decide, next]
          rw [isTenth, next] at tenth
          exact (parity_succ tick.toNat).1 tenth
        · rw [if_neg tenth, decide_eq_decide, next]
          rw [isTenth, next] at tenth
          exact (parity_succ tick.toNat).2 tenth

/-! ## One step -/

/-- The slots that a point of the loop takes to show what they should. -/
def Point.Ready (numInterfaces : UInt8) (shown : UInt8 → Prop) : Point → Prop
  | .sleep => ∀ slot < numInterfaces, shown slot
  | .setState slot => slot < numInterfaces ∧ ∀ other < slot, shown other
  | .sendInput slot | .pollOutput slot =>
      slot < numInterfaces ∧ ∀ other < numInterfaces, shown other
  | .panicked => False

section Points

variable {numInterfaces slot : UInt8} {shown : UInt8 → Prop}

/-- The head of a loop is ready where its body is, or at its end what follows. -/
theorem ready_forSlot {body : UInt8 → Point} {after : Point}
    (bodyReady : slot < numInterfaces → (body slot).Ready numInterfaces shown)
    (afterReady : ¬slot < numInterfaces → after.Ready numInterfaces shown) :
    (forSlot numInterfaces slot body after).Ready numInterfaces shown := by
  unfold forSlot
  split
  · next more => exact bodyReady more
  · next done => exact afterReady done

/-- The loop of polls is ready once every slot has its state set. -/
theorem ready_polls (all : ∀ other < numInterfaces, shown other) :
    (polls numInterfaces).Ready numInterfaces shown :=
  ready_forSlot (fun more => ⟨more, all⟩) fun _ => all

/-- The loop of sends is ready once every slot has its state set. -/
theorem ready_sends (all : ∀ other < numInterfaces, shown other) :
    (sends numInterfaces).Ready numInterfaces shown :=
  ready_forSlot (fun more => ⟨more, all⟩) fun _ => ready_polls all

/-- The slots up to the next one. -/
theorem lt_succ_iff (inRange : slot < numInterfaces) {other : UInt8} :
    other < slot + 1 ↔ other < slot ∨ other = slot := by
  have bound := numInterfaces.toNat_lt
  rw [UInt8.lt_iff_toNat_lt] at inRange
  have next : (slot + 1).toNat = slot.toNat + 1 := by
    rw [UInt8.toNat_add]
    change (slot.toNat + 1) % 256 = slot.toNat + 1
    omega
  rw [UInt8.lt_iff_toNat_lt, UInt8.lt_iff_toNat_lt, next, ← UInt8.toNat_inj]
  omega

/-- After the state of one more slot is set, the loop goes on where it is ready. -/
theorem ready_afterSet (inRange : slot < numInterfaces) (before : ∀ other < slot, shown other)
    (here : shown slot) :
    (forSlot numInterfaces (slot + 1) .setState
      (sends numInterfaces)).Ready numInterfaces shown := by
  have upTo : ∀ other < slot + 1, shown other := by
    intro other below
    rcases (lt_succ_iff inRange).mp below with earlier | rfl
    · exact before other earlier
    · exact here
  refine ready_forSlot (fun more => ⟨more, upTo⟩) fun done => ready_sends ?_
  intro other below
  apply upTo
  rw [UInt8.lt_iff_toNat_lt] at done below ⊢
  omega

end Points

/-- The slots up to the point of the loop hold the state of the round, and no call has
panicked. -/
structure Main.Sound (config : ConfigDescriptorSet) (demoMode : Bool) (s : Main K) : Prop where
  emulation : s.emulation.Sound config
  unpoisoned : s.emulation.gadget.world.poisoned = false
  pressed : s.aPressed = held demoMode s.tick
  ready : s.point.Ready config.numInterfaces fun slot =>
    lastState s.emulation.past slot = demoState demoMode s.tick

section Steps

variable {os : Os K} {config : ConfigDescriptorSet} {demoMode : Bool} {s next : Main K}

/-- The main thread starts where its loop invariant holds. -/
theorem sound_new (fd : Int32) (kernel : K) :
    (Main.new config fd kernel : Main K).Sound config demoMode where
  emulation := Session.sound_new config fd kernel
  unpoisoned := rfl
  pressed := (held_zero demoMode).symm
  ready := by
    intro slot below
    change InputState.default = InputState.default.withButton .a (held demoMode 0)
    rw [held_zero]
    rfl

/-- A round that starts has its state set, or is about to set it. -/
theorem Main.Sound.wake (sound : s.Sound config demoMode) (asleep : s.point = .sleep) :
    (s.wake config.numInterfaces demoMode).Sound config demoMode := by
  have ready := sound.ready
  rw [asleep] at ready
  unfold Main.wake
  dsimp only
  split
  · next toggles =>
      have flips : held demoMode (s.tick + 1) = !held demoMode s.tick := by
        rw [held_succ, if_pos toggles]
      refine ⟨sound.emulation, sound.unpoisoned, ?_, ?_⟩
      · rw [flips, ← sound.pressed]
      · refine ready_forSlot (fun more => ⟨more, ?_⟩) fun none => ready_sends ?_
        · intro other below
          exact absurd below (UInt8.not_lt_zero)
        · intro other below
          rw [UInt8.lt_iff_toNat_lt] at below none
          exact absurd (Nat.lt_of_le_of_lt (Nat.zero_le _) below) none
  · next keeps =>
      have same : held demoMode (s.tick + 1) = held demoMode s.tick := by
        rw [held_succ, if_neg keeps]
      refine ⟨sound.emulation, sound.unpoisoned, ?_, ?_⟩
      · rw [same]
        exact sound.pressed
      · apply ready_sends
        intro slot below
        rw [demoState, same]
        exact ready slot below

/-- A call for a slot of the table leaves the mutex sound. -/
theorem poisoned_begin {self : WirelessReceiver (RawGadgetTransport K)} {operation : Operation}
    (sound : self.transport.gadget.world.poisoned = false)
    (inTable : ∀ slot, operation = .sendInput slot → slot.toNat < 4)
    (notRaw : ∀ slot data, operation ≠ .sendRawInput slot data) :
    (begin os self operation).transport.gadget.world.poisoned = false := by
  by_cases isPoll : IsPoll operation
  · obtain ⟨output, same⟩ : OutputOnly self.transport (begin os self operation).transport :=
      outputOnly_begin isPoll
    rw [same]
    exact sound
  cases operation with
  | setState slot state => exact sound
  | sendInput slot =>
      have below := inTable slot rfl
      cases found : self.slot slot with
      | none =>
          simp only [begin, found]
          exact sound
      | some held =>
          simp only [begin, found, withGadget]
          refine eq_false_of_ne_true fun poisoned => ?_
          rcases poisoned_stepLookup_iff.mp poisoned with before | beyond
          · rw [sound] at before
            cases before
          · omega
  | sendRawInput slot data => exact absurd rfl (notRaw slot data)
  | _ => exact absurd trivial isPoll

/-- No step of a background thread poisons the mutex on at most four slots. -/
theorem poisoned_thread (few : config.numInterfaces.toNat ≤ 4) {s next : Emulation K}
    (sound : s.Sound config) (unpoisoned : s.gadget.world.poisoned = false)
    {action : GadgetAction} (stepped : s.step os (.thread action) = some next) :
    next.gadget.world.poisoned = false := by
  simp only [Emulation.step, Option.ite_none_right_eq_some, Option.map_eq_some_iff] at stepped
  obtain ⟨isThread, gadget, moved, rfl⟩ := stepped
  have fewHere : s.receiver.transport.numInterfaces.toNat ≤ 4 := by
    rw [sound.interfaces]
    exact few
  refine eq_false_of_ne_true fun poisoned => ?_
  rcases (poisoned_step_iff fewHere moved).mp poisoned with before | poisons
  · rw [unpoisoned] at before
    cases before
  · rcases isThread with isBackground | rfl
    · cases action <;> first | exact poisons | exact isBackground
    · exact poisons

/-- A send from a slot of the table returns. -/
theorem sendInput_returns {self : WirelessReceiver (RawGadgetTransport K)} {slot : UInt8}
    (unpoisoned : self.transport.gadget.world.poisoned = false) (below : slot.toNat < 4) :
    (WirelessReceiver.sendInput (hardware os) slot).result self ≠ none := by
  cases found : self.slot slot with
  | none =>
      rw [Method.result_of_eq_ok (sendInput_of_none (hardware os) self found)]
      exact Option.some_ne_none _
  | some held =>
      have looked : epInHandle slot self.transport.gadget.world =
          .ok self.transport.gadget.world.shared.epIn[slot.toNat] := by
        rw [epInHandle, if_neg (ne_true_of_eq_false unpoisoned), dif_pos below]
      have same := sendInput_of_some (hardware os) self found
      have result : (WirelessReceiver.sendInput (hardware os) slot).result self =
          ((hardware os).writeInputReport slot (.fromInput held.state)).result self.transport := by
        rw [← result_onTransport, Method.result, Method.result, same]
      rw [result]
      simp only [hardware, Method.result, Method.andThen, RawGadgetTransport.onWorld, Method.on,
        RawGadgetTransport.lookupEpIn, looked]
      cases self.transport.gadget.world.shared.epIn[slot.toNat] with
      | none => exact Option.some_ne_none _
      | some ep => exact Option.some_ne_none _

/-- A poll of a slot of the gadget returns, with a report or with none. -/
theorem pollOutput_returns (os : Os K) (self : WirelessReceiver (RawGadgetTransport K))
    {slot : UInt8} (below : slot.toNat < 4) : ∃ report,
      (WirelessReceiver.pollOutput (hardware os) slot).result self = some (.ok report) := by
  refine ⟨nextOutput RawGadgetTransport.waiting self.transport slot, ?_⟩
  rw [WirelessReceiver.pollOutput, result_onTransport,
    (outputCells_hardware os).returned_output, if_pos below]

/-- A call of the loop sets what it sets, and leaves the mutex sound. -/
theorem Main.Sound.called (sound : s.Sound config demoMode) {operation : Operation}
    {after : Emulation K}
    (stepped : (Session.emulation os).step s.emulation (.call operation) = some after)
    (inTable : ∀ slot, operation = .sendInput slot → slot.toNat < 4)
    (notRaw : ∀ slot data, operation ≠ .sendRawInput slot data) :
    after.Sound config ∧ after.gadget.world.poisoned = false ∧
      ∀ slot, lastState after.past slot =
        (operation.sets slot).getD (lastState s.emulation.past slot) := by
  have kept := sound.emulation.step stepped
  change s.emulation.step os (.call operation) = some after at stepped
  simp only [Emulation.step, Option.ite_none_right_eq_some, Option.some.injEq] at stepped
  obtain ⟨idle, rfl⟩ := stepped
  exact ⟨kept, poisoned_begin sound.unpoisoned inTable notRaw, fun slot => lastState_concat _ _ _⟩

/-- The call that the main thread is at keeps the loop invariant. -/
theorem Main.Sound.call (sound : s.Sound config demoMode) (few : config.numInterfaces.toNat ≤ 4)
    (stepped : s.call os config.numInterfaces = some next) : next.Sound config demoMode := by
  have ready := sound.ready
  unfold Main.call at stepped
  cases due : s.point with
  | sleep => simp [due] at stepped
  | panicked => simp [due] at stepped
  | setState slot =>
      simp only [due, Option.map_eq_some_iff] at stepped
      obtain ⟨after, called, rfl⟩ := stepped
      obtain ⟨sets, unpoisoned, states⟩ := sound.called called (fun _ => Operation.noConfusion)
        fun _ _ => Operation.noConfusion
      rw [due] at ready
      refine ⟨sets, unpoisoned, sound.pressed, ready_afterSet ready.1 ?_ ?_⟩
      · intro other below
        have different : slot ≠ other := by
          rintro rfl
          exact absurd below (UInt8.lt_irrefl slot)
        rw [states, Operation.sets, if_neg different]
        exact ready.2 other below
      · rw [states, Operation.sets, if_pos rfl, Option.getD_some, sound.pressed]
        rfl
  | sendInput slot =>
      simp only [due, Option.map_eq_some_iff] at stepped
      obtain ⟨after, called, rfl⟩ := stepped
      rw [due] at ready
      obtain ⟨inRange, all⟩ := ready
      have below : slot.toNat < 4 := Nat.lt_of_lt_of_le (UInt8.lt_iff_toNat_lt.mp inRange) few
      obtain ⟨sent, unpoisoned, states⟩ := sound.called called
        (fun _ same => Operation.sendInput.inj same ▸ below) fun _ _ => Operation.noConfusion
      have unchanged : ∀ other < config.numInterfaces,
          lastState after.past other = demoState demoMode s.tick := by
        intro other otherBelow
        rw [states]
        exact all other otherBelow
      refine ⟨sent, unpoisoned, sound.pressed, ?_⟩
      cases returned : (WirelessReceiver.sendInput (hardware os) slot).result
          s.emulation.receiver with
      | none => exact absurd returned (sendInput_returns sound.unpoisoned below)
      | some result =>
          exact ready_forSlot (fun more => ⟨more, unchanged⟩) fun _ => ready_polls unchanged
  | pollOutput slot =>
      simp only [due, Option.map_eq_some_iff] at stepped
      obtain ⟨after, called, same⟩ := stepped
      rw [due] at ready
      obtain ⟨inRange, all⟩ := ready
      have below : slot.toNat < 4 := Nat.lt_of_lt_of_le (UInt8.lt_iff_toNat_lt.mp inRange) few
      obtain ⟨sent, unpoisoned, states⟩ := sound.called called
        (fun _ => Operation.noConfusion) fun _ _ => Operation.noConfusion
      have unchanged : ∀ other < config.numInterfaces,
          lastState after.past other = demoState demoMode s.tick := by
        intro other otherBelow
        rw [states]
        exact all other otherBelow
      obtain ⟨report, returned⟩ := pollOutput_returns os s.emulation.receiver below
      rw [returned] at same
      cases report with
      | some report =>
          obtain rfl : _ = next := same
          exact ⟨sent, unpoisoned, sound.pressed, ⟨inRange, unchanged⟩⟩
      | none =>
          obtain rfl : _ = next := same
          exact ⟨sent, unpoisoned, sound.pressed,
            ready_forSlot (fun more => ⟨more, unchanged⟩) fun _ => unchanged⟩

/-- Every step of the loop and of its background threads keeps the loop invariant. -/
theorem Main.Sound.step (sound : s.Sound config demoMode) (few : config.numInterfaces.toNat ≤ 4)
    {action : MainAction}
    (stepped : (mainLoop os config.numInterfaces demoMode).step s action = some next) :
    next.Sound config demoMode := by
  change s.step os config.numInterfaces demoMode action = some next at stepped
  cases action with
  | wake =>
      simp only [Main.step, Option.ite_none_right_eq_some, Option.some.injEq] at stepped
      obtain ⟨⟨asleep, -⟩, rfl⟩ := stepped
      exact sound.wake asleep
  | call => exact sound.call few stepped
  | thread action =>
      simp only [Main.step, Option.map_eq_some_iff] at stepped
      obtain ⟨after, moved, rfl⟩ := stepped
      have taken : (Session.emulation os).step s.emulation (.thread action) = some after := moved
      have kept : after.Sound config := sound.emulation.step taken
      have same : after.past = s.emulation.past := by
        simp only [Emulation.step, Option.ite_none_right_eq_some, Option.map_eq_some_iff] at moved
        obtain ⟨-, gadget, -, rfl⟩ := moved
        rfl
      refine ⟨kept, poisoned_thread few sound.emulation sound.unpoisoned moved, sound.pressed, ?_⟩
      dsimp only
      rw [same]
      exact sound.ready

/-- What a call of the loop hands over is what it shows. -/
theorem call_shows (sound : s.Sound config demoMode)
    (stepped : s.call os config.numInterfaces = some next) : ∃ operation,
      (emulation os).step s.emulation (.call operation) = some next.emulation ∧
        handsOver s.emulation (.call operation) = shows demoMode s .call := by
  have ready := sound.ready
  unfold Main.call at stepped
  unfold shows
  cases due : s.point with
  | sleep => simp [due] at stepped
  | panicked => simp [due] at stepped
  | setState slot =>
      simp only [due, Option.map_eq_some_iff] at stepped
      obtain ⟨after, called, rfl⟩ := stepped
      exact ⟨_, called, rfl⟩
  | sendInput slot =>
      simp only [due, Option.map_eq_some_iff] at stepped
      obtain ⟨after, called, rfl⟩ := stepped
      refine ⟨_, called, ?_⟩
      rw [due] at ready
      obtain ⟨inRange, all⟩ := ready
      rw [handsOver, sound.emulation.sameConfig, if_pos inRange, all slot inRange]
  | pollOutput slot =>
      simp only [due, Option.map_eq_some_iff] at stepped
      obtain ⟨after, called, rfl⟩ := stepped
      refine ⟨.pollOutput slot, ?_, rfl⟩
      split <;> exact called

/-- A step of the loop adds to what is handed over what it shows. -/
theorem handed_mainStep (few : config.numInterfaces.toNat ≤ 4) {action : MainAction}
    (sound : s.Sound config demoMode)
    (stepped : (mainLoop os config.numInterfaces demoMode).step s action = some next) :
    (handed next.emulation.gadget).map hostReads =
      (handed s.emulation.gadget).map hostReads ++ (shows demoMode s action).toList := by
  change s.step os config.numInterfaces demoMode action = some next at stepped
  cases action with
  | wake =>
      simp only [Main.step, Option.ite_none_right_eq_some, Option.some.injEq] at stepped
      obtain ⟨-, rfl⟩ := stepped
      have same : (s.wake config.numInterfaces demoMode).emulation = s.emulation := by
        unfold Main.wake
        dsimp only
        split <;> rfl
      rw [same]
      exact (List.append_nil _).symm
  | call =>
      obtain ⟨operation, called, shown⟩ := call_shows sound stepped
      rw [← shown]
      exact handed_step few sound.emulation called
  | thread action =>
      simp only [Main.step, Option.map_eq_some_iff] at stepped
      obtain ⟨after, moved, rfl⟩ := stepped
      have taken : (emulation os).step s.emulation (.thread action) = some after := moved
      exact handed_step few sound.emulation taken

end Steps

/-! ## Runs -/

/-- Whatever the threads of the gadget do between the calls of the loop, each send that
finds an endpoint hands over one report: A held in every other group of ten rounds in
demo mode, nothing held otherwise. The host reads exactly those whose `EP_WRITE` the
kernel accepted. No call of the loop panics. -/
theorem demo_hostReads {os : Os K} {config : ConfigDescriptorSet} {demoMode : Bool}
    (few : config.numInterfaces.toNat ≤ 4) {fd : Int32} {kernel : K} {actions : List MainAction}
    {s : Main K} (runs : (mainLoop os config.numInterfaces demoMode).run (.new config fd kernel)
      actions = some s) :
    (handed s.emulation.gadget).map hostReads =
        (mainLoop os config.numInterfaces demoMode).image (shows demoMode)
          (.new config fd kernel) actions ∧
      (accepted s.emulation.gadget.world.log).map hostReads =
        whereAccepted ((mainLoop os config.numInterfaces demoMode).image (shows demoMode)
          (.new config fd kernel) actions) (writeReplies s.emulation.gadget.world.log) ∧
      s.point ≠ .panicked := by
  have start : (Main.new config fd kernel : Main K).Sound config demoMode := sound_new fd kernel
  have all : (handed s.emulation.gadget).map hostReads =
      (mainLoop os config.numInterfaces demoMode).image (shows demoMode)
        (.new config fd kernel) actions :=
    (mainLoop os config.numInterfaces demoMode).run_emits (shows demoMode)
      (Main.Sound config demoMode) (fun sound stepped => sound.step few stepped)
      (fun s => (handed s.emulation.gadget).map hostReads) (handed_mainStep few) start runs
  refine ⟨all, all ▸ map_accepted hostReads s.emulation.gadget, ?_⟩
  intro panicked
  have sound := (mainLoop os config.numInterfaces demoMode).run_invariant
    (Main.Sound config demoMode) (fun sound stepped => sound.step few stepped) start runs
  have ready := sound.ready
  rw [panicked] at ready
  exact ready

/-- The host configures the device, and the first round sends the neutral state. -/
def firstRound : List MainAction :=
  [.thread (.fetch (.ok (.setConfiguration 1))), .wake, .call, .thread .epWrite, .call]

/-- The host reads the neutral state of the first round. -/
theorem demo_hostReads_firstRound : ∃ s,
    (mainLoop .counting oneSlot.numInterfaces true).run (.new oneSlot 3 0) firstRound = some s ∧
      (accepted s.emulation.gadget.world.log).map hostReads = [(0, some InputState.default)] ∧
        s.point ≠ .panicked := by
  have runs : (mainLoop .counting oneSlot.numInterfaces true).run (.new oneSlot 3 0)
      firstRound = some _ := rfl
  obtain ⟨-, read, sound⟩ := demo_hostReads (by decide) runs
  exact ⟨_, runs, read.trans rfl, sound⟩

end X360Gadget.Binary
