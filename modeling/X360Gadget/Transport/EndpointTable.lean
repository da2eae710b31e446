import Mathlib.Data.List.Induction
import X360Gadget.Transport.Gadget

/-!
# What the endpoint table holds

The table is a function of the log: each cell is the answer to the most recent
successful `EP_ENABLE` of its address since the last RESET or DISCONNECT, and
`ready` says that a SET_CONFIGURATION was handled since then. This holds in
every reachable state, whatever the kernel answers and whatever the other
threads do in between.
-/

namespace X360Gadget.Transport

open X360Gadget.Descriptors X360Gadget.Kernel X360Gadget.Std

variable {K : Type}

/-! ## Reading the log -/

/-- The entry is a RESET or DISCONNECT. -/
def isDetachEntry : Interaction → Bool
  | .called _ _ => false
  | .handled event => decide (IsDetach event)

/-- The entry is a handled SET_CONFIGURATION. -/
def isConfigureEntry : Interaction → Bool
  | .called _ _ => false
  | .handled event => decide (Configures event)

/-- The handle a successful `EP_ENABLE` of `address` returned. -/
def handleOf (address : UInt8) : Interaction → Option Int32
  | .called (.epEnable desc) reply =>
      if desc.bEndpointAddress = address then reply.result.toOption else none
  | _ => none

/-- The entries since the last RESET or DISCONNECT, newest first. -/
def sinceDetach (log : List Interaction) : List Interaction :=
  log.reverse.takeWhile fun entry => !isDetachEntry entry

/-- The handle of the most recent successful `EP_ENABLE` of `address` since the
last RESET or DISCONNECT. -/
def latestHandle (log : List Interaction) (address : UInt8) : Option Int32 :=
  (sinceDetach log).findSome? (handleOf address)

/-- A SET_CONFIGURATION was handled since the last RESET or DISCONNECT. -/
def configuredSinceDetach (log : List Interaction) : Bool :=
  (sinceDetach log).any isConfigureEntry

section Log

variable {log : List Interaction} {entry : Interaction} {address : UInt8}

/-- The part of a log since the last detach, after one more entry. -/
theorem sinceDetach_concat : sinceDetach (log ++ [entry]) =
    if isDetachEntry entry then [] else entry :: sinceDetach log := by
  simp only [sinceDetach, List.reverse_append, List.reverse_singleton, List.singleton_append,
    List.takeWhile_cons]
  cases isDetachEntry entry <;> rfl

/-- A detach forgets every handle. -/
theorem latestHandle_concat_detach (detach : isDetachEntry entry = true) :
    latestHandle (log ++ [entry]) address = none := by
  rw [latestHandle, sinceDetach_concat, if_pos detach]
  rfl

/-- Any other entry hides older answers for its own address. -/
theorem latestHandle_concat (attached : isDetachEntry entry = false) :
    latestHandle (log ++ [entry]) address =
      (handleOf address entry).or (latestHandle log address) := by
  rw [latestHandle, sinceDetach_concat, attached, if_neg Bool.false_ne_true, List.findSome?_cons]
  cases handleOf address entry <;> rfl

/-- Entries that neither detach nor answer for `address` leave its handle alone. -/
theorem latestHandle_append {entries : List Interaction}
    (quiet : ∀ entry ∈ entries, isDetachEntry entry = false ∧ handleOf address entry = none) :
    latestHandle (log ++ entries) address = latestHandle log address := by
  induction entries using List.reverseRecOn with
  | nil => rw [List.append_nil]
  | append_singleton entries last ih =>
      have lastQuiet := quiet last (List.mem_append_right _ List.mem_cons_self)
      rw [← List.append_assoc, latestHandle_concat lastQuiet.1, lastQuiet.2, Option.none_or]
      exact ih fun entry member => quiet entry (List.mem_append_left _ member)

/-- A successful `EP_ENABLE` becomes the latest handle of its address only. -/
theorem latestHandle_concat_enable {desc : UsbEndpointDescriptor} {reply : SyscallReply}
    {h : Int32} (answer : reply.result = .ok h) :
    latestHandle (log ++ [.called (.epEnable desc) reply]) address =
      if desc.bEndpointAddress = address then some h else latestHandle log address := by
  rw [latestHandle_concat rfl]
  by_cases same : desc.bEndpointAddress = address <;>
    simp [handleOf, same, answer, Except.toOption]

/-- Whether a log is configured since the last detach, after one more entry. -/
theorem configuredSinceDetach_concat : configuredSinceDetach (log ++ [entry]) =
    (!isDetachEntry entry && (isConfigureEntry entry || configuredSinceDetach log)) := by
  rw [configuredSinceDetach, sinceDetach_concat]
  cases isDetachEntry entry <;> rfl

end Log

/-! ## The invariant -/

/-- The handles are the kernel's latest answers, and only configured slots have any. -/
structure HandlesMatch (n : Nat) (w : Ep0World K) : Prop where
  epIn : ∀ i (bound : i < 4), w.shared.epIn[i] = latestHandle w.log (epInAddr i)
  epOut : ∀ i (bound : i < 4), w.shared.epOut[i] = latestHandle w.log (epOutAddr i)
  unused : ∀ i (bound : i < 4), n ≤ i → w.shared.epIn[i] = none ∧ w.shared.epOut[i] = none

/-- The whole table is what the log says. -/
structure TableMatches (n : Nat) (w : Ep0World K) : Prop extends HandlesMatch n w where
  ready : w.shared.ready = configuredSinceDetach w.log

/-- Only the table and the log matter. -/
theorem HandlesMatch.of_eq {n : Nat} {w w' : Ep0World K} (holds : HandlesMatch n w)
    (epIn : w'.shared.epIn = w.shared.epIn) (epOut : w'.shared.epOut = w.shared.epOut)
    (log : w'.log = w.log) : HandlesMatch n w' := by
  refine ⟨?_, ?_, ?_⟩
  · simpa only [epIn, log] using holds.epIn
  · simpa only [epOut, log] using holds.epOut
  · simpa only [epIn, epOut] using holds.unused

/-- A call that enables nothing leaves the answers alone. -/
theorem HandlesMatch.issue {n : Nat} {os : Os K} {w : Ep0World K} {call : Syscall}
    (holds : HandlesMatch n w)
    (other : ∀ address, handleOf address (.called call (w.reply os call)) = none) :
    HandlesMatch n (w.issue os call) := by
  have same : ∀ address,
      latestHandle (w.issue os call).log address = latestHandle w.log address := by
    intro address
    rw [Ep0World.issue_log, latestHandle_concat rfl, other, Option.none_or]
  refine ⟨?_, ?_, holds.unused⟩
  · intro i bound
    rw [same, Ep0World.issue_shared, holds.epIn i bound]
  · intro i bound
    rw [same, Ep0World.issue_shared, holds.epOut i bound]

/-- A failed `EP_ENABLE` leaves the answers alone. -/
theorem HandlesMatch.issue_failed {n : Nat} {os : Os K} {w : Ep0World K}
    {desc : UsbEndpointDescriptor} {errno : Errno} (holds : HandlesMatch n w)
    (failed : (w.reply os (.epEnable desc)).result = .error errno) :
    HandlesMatch n (w.issue os (.epEnable desc)) := by
  apply holds.issue
  intro address
  simp [handleOf, failed, Except.toOption]

/-- Enabling an IN endpoint records exactly its answer. -/
theorem HandlesMatch.recordEpIn {n i : Nat} {os : Os K} {w : Ep0World K}
    (holds : HandlesMatch n w) (few : n ≤ 4) (slot : i < n) :
    HandlesMatch n (recordEpIn os w i) := by
  unfold Transport.recordEpIn
  cases answer : (w.reply os (.epEnable (epInDesc i))).result with
  | error errno => exact holds.issue_failed answer
  | ok h =>
      have latest : ∀ address,
          latestHandle (w.issue os (.epEnable (epInDesc i))).log address =
            if epInAddr i = address then some h else latestHandle w.log address := by
        intro address
        rw [Ep0World.issue_log, latestHandle_concat_enable answer]
        rfl
      refine ⟨?_, ?_, ?_⟩
      · intro j bound
        simp only [Ep0World.setEpIn_epIn, Ep0World.setEpIn_log, Ep0World.issue_shared,
          Vector.getElem_setIfInBounds, latest,
          epInAddr_inj (i := i) (j := j) (by omega) (by omega), holds.epIn j bound]
      · intro j bound
        have other : epInAddr i ≠ epOutAddr j := epInAddr_ne_epOutAddr (by omega) (by omega)
        simp only [Ep0World.setEpIn_epOut, Ep0World.setEpIn_log, Ep0World.issue_shared, latest,
          if_neg other, holds.epOut j bound]
      · intro j bound beyond
        have other : i ≠ j := by omega
        simp only [Ep0World.setEpIn_epIn, Ep0World.setEpIn_epOut, Ep0World.issue_shared,
          Vector.getElem_setIfInBounds, if_neg other]
        exact holds.unused j bound beyond

/-- Enabling an OUT endpoint records exactly its answer. -/
theorem HandlesMatch.recordEpOut {n i : Nat} {os : Os K} {w : Ep0World K}
    (holds : HandlesMatch n w) (few : n ≤ 4) (slot : i < n) :
    HandlesMatch n (recordEpOut os w i) := by
  unfold Transport.recordEpOut
  cases answer : (w.reply os (.epEnable (epOutDesc i))).result with
  | error errno => exact holds.issue_failed answer
  | ok h =>
      have latest : ∀ address,
          latestHandle (((w.issue os (.epEnable (epOutDesc i))).setEpOut i h).spawnEpOut os
            (UInt8.ofNat i) h).log address =
              if epOutAddr i = address then some h else latestHandle w.log address := by
        intro address
        rw [Ep0World.spawnEpOut_log, latestHandle_concat rfl, Ep0World.setEpOut_log,
          Ep0World.issue_log, latestHandle_concat_enable answer]
        rfl
      refine ⟨?_, ?_, ?_⟩
      · intro j bound
        have other : epOutAddr i ≠ epInAddr j := (epInAddr_ne_epOutAddr (by omega) (by omega)).symm
        simp only [latest, if_neg other, Ep0World.spawnEpOut_shared, Ep0World.setEpOut_epIn,
          Ep0World.issue_shared, holds.epIn j bound]
      · intro j bound
        simp only [latest, Ep0World.spawnEpOut_shared, Ep0World.setEpOut_epOut,
          Ep0World.issue_shared, Vector.getElem_setIfInBounds,
          epOutAddr_inj (i := i) (j := j) (by omega) (by omega), holds.epOut j bound]
      · intro j bound beyond
        have other : i ≠ j := by omega
        simp only [Ep0World.spawnEpOut_shared, Ep0World.setEpOut_epIn, Ep0World.setEpOut_epOut,
          Ep0World.issue_shared, Vector.getElem_setIfInBounds, if_neg other]
        exact holds.unused j bound beyond

/-- A whole SET_CONFIGURATION records exactly its answers. -/
theorem HandlesMatch.configured {n : Nat} {os : Os K} {w : Ep0World K}
    (holds : HandlesMatch n w) (few : n ≤ 4) : HandlesMatch n (configured os n w) := by
  have loop : ∀ (slots : List Nat), (∀ i ∈ slots, i < n) → ∀ w : Ep0World K, HandlesMatch n w →
      HandlesMatch n (slots.foldl (configureSlot os) w) := by
    intro slots
    induction slots with
    | nil => exact fun _ _ holds => holds
    | cons i rest ih =>
        intro inRange w holds
        have slot : i < n := inRange i List.mem_cons_self
        exact ih (fun j member => inRange j (List.mem_cons_of_mem i member)) _
          ((holds.recordEpIn few slot).recordEpOut few slot)
  have enabled := loop (List.range n) (fun i member => List.mem_range.mp member) w holds
  have drawn : HandlesMatch n (Ep0World.issue _ os (.vbusDraw 0xFA)) :=
    enabled.issue fun _ => rfl
  have set : HandlesMatch n (Ep0World.issue _ os .configure) := drawn.issue fun _ => rfl
  have acknowledged : HandlesMatch n (Ep0World.issue _ os (.ep0Read (.ofLength 0 .zeroed))) :=
    set.issue fun _ => rfl
  exact acknowledged.of_eq rfl rfl rfl

/-! ## Steps and runs -/

/-- The configuration's calls log no handled event. -/
theorem configuredSinceDetach_issue {os : Os K} {w : Ep0World K} {call : Syscall} :
    configuredSinceDetach (w.issue os call).log = configuredSinceDetach w.log := by
  rw [Ep0World.issue_log, configuredSinceDetach_concat]
  rfl

/-- Handling any event but a detach leaves the handles matching what they matched. -/
theorem HandlesMatch.markHandled {n : Nat} {event : UsbRawControlEvent} {w : Ep0World K}
    (holds : HandlesMatch n w) (attached : ¬IsDetach event) :
    HandlesMatch n (markHandled event w) := by
  have same : ∀ address,
      latestHandle (Transport.markHandled event w).log address = latestHandle w.log address := by
    intro address
    have notDetach : isDetachEntry (.handled event) = false := decide_eq_false attached
    rw [Transport.markHandled, latestHandle_concat notDetach]
    rfl
  refine ⟨?_, ?_, holds.unused⟩
  · intro i bound
    rw [same]
    exact holds.epIn i bound
  · intro i bound
    rw [same]
    exact holds.epOut i bound

/-- A detach forgets every answer and empties the table. -/
theorem handlesMatch_detached {n : Nat} {event : UsbRawControlEvent} {w : Ep0World K}
    (detach : IsDetach event) : HandlesMatch n (markHandled event (clearEndpoints w)) := by
  have forgotten : ∀ address,
      latestHandle (markHandled event (clearEndpoints w)).log address = none :=
    fun address => latestHandle_concat_detach (decide_eq_true detach)
  refine ⟨?_, ?_, ?_⟩
  · intro i bound
    rw [forgotten]
    exact Vector.getElem_replicate bound
  · intro i bound
    rw [forgotten]
    exact Vector.getElem_replicate bound
  · intro i bound _
    exact ⟨Vector.getElem_replicate bound, Vector.getElem_replicate bound⟩

/-- Every outcome of an event leaves a table that matches the log. -/
theorem TableMatches.handled {n : Nat} {os : Os K} {event : UsbRawControlEvent}
    {w w' : Ep0World K} (holds : TableMatches n w) (few : n ≤ 4)
    (outcome : HandledAs os n event w (.ok w')) : TableMatches n (markHandled event w') := by
  cases outcome with
  | ignored attached other =>
      refine ⟨holds.toHandlesMatch.markHandled attached, ?_⟩
      simp only [markHandled, configuredSinceDetach_concat, isDetachEntry, isConfigureEntry,
        attached, other, decide_false, Bool.not_false, Bool.true_and, Bool.false_or]
      exact holds.ready
  | detached detach sound =>
      refine ⟨handlesMatch_detached detach, ?_⟩
      simp only [markHandled, configuredSinceDetach_concat, isDetachEntry, detach, decide_true,
        Bool.not_true, Bool.false_and]
      rfl
  | configured configures sound =>
      have attached : ¬IsDetach event := fun detach => not_configures_of_isDetach detach configures
      refine ⟨(holds.toHandlesMatch.configured few).markHandled attached, ?_⟩
      simp only [markHandled, configuredSinceDetach_concat, isDetachEntry, isConfigureEntry,
        attached, configures, decide_false, decide_true, Bool.not_false, Bool.true_and,
        Bool.true_or]
      rfl
  | answered attached other call reply =>
      have enablesNothing : ∀ address,
          handleOf address (.called call (w.reply os call)) = none := by
        intro address
        cases call <;> first | rfl | cases reply
      refine ⟨(holds.toHandlesMatch.issue enablesNothing).markHandled attached, ?_⟩
      simp only [markHandled, configuredSinceDetach_concat, isDetachEntry, isConfigureEntry,
        attached, other, decide_false, Bool.not_false, Bool.true_and, Bool.false_or,
        configuredSinceDetach_issue]
      exact holds.ready

/-- Every step of any thread keeps the table matching the log. -/
theorem TableMatches.step {n : Nat} {os : Os K} {w w' : Ep0World K} {action : GadgetAction}
    (holds : TableMatches n w) (few : n ≤ 4) (stepped : WorldStep os n w action w') :
    TableMatches n w' := by
  cases stepped with
  | handled event w' outcome => exact holds.handled few outcome
  | panicked event blocked => exact holds
  | readerEnded reader read => exact ⟨holds.toHandlesMatch.of_eq rfl rfl rfl, holds.ready⟩
  | poisoned slot report => exact ⟨holds.toHandlesMatch.of_eq rfl rfl rfl, holds.ready⟩
  | wrote io =>
      refine ⟨holds.toHandlesMatch.issue fun _ => rfl, ?_⟩
      rw [configuredSinceDetach_issue]
      exact holds.ready
  | unchanged action noEvent => exact holds

/-- Before the first step nothing is enabled and nothing is logged. -/
theorem tableMatches_new {n : Nat} {kernel : K} : TableMatches n (Ep0World.new kernel) := by
  refine ⟨⟨?_, ?_, ?_⟩, rfl⟩
  · exact fun i bound => Vector.getElem_replicate bound
  · exact fun i bound => Vector.getElem_replicate bound
  · exact fun i bound _ => ⟨Vector.getElem_replicate bound, Vector.getElem_replicate bound⟩

/-- A step that handles neither a detach nor a SET_CONFIGURATION changes nothing
in the table. -/
theorem shared_of_worldStep {n : Nat} {os : Os K} {w w' : Ep0World K} {action : GadgetAction}
    (stepped : WorldStep os n w action w')
    (other : ∀ event, action = .fetch (.ok event) → ¬IsDetach event ∧ ¬Configures event) :
    w'.shared = w.shared := by
  cases stepped with
  | handled event w' outcome =>
      have neither := other event rfl
      cases outcome with
      | ignored => rfl
      | detached detach => exact absurd detach neither.1
      | configured configures => exact absurd configures neither.2
      | answered => rfl
  | panicked => rfl
  | readerEnded => rfl
  | poisoned => rfl
  | wrote => rfl
  | unchanged => rfl

section Runs

variable {os : Os K} {numInterfaces : UInt8} {desc : DescriptorBytes} {kernel : K}
  {actions : List GadgetAction} {g : Gadget K}

/-- In every reachable state the table matches the log. -/
theorem tableMatches_of_run (few : numInterfaces.toNat ≤ 4)
    (runs : (gadget os numInterfaces desc).run (.new kernel) actions = some g) :
    TableMatches numInterfaces.toNat g.world := by
  refine (gadget os numInterfaces desc).run_invariant
    (fun g => TableMatches numInterfaces.toNat g.world) ?_ tableMatches_new runs
  intro state action next holds stepped
  exact holds.step few (gadget_worldStep few stepped)

/-- The table of every reachable state is what the log says, and no other event
or request and no step of another thread changes it. -/
theorem endpointTable_characterised (few : numInterfaces.toNat ≤ 4)
    (runs : (gadget os numInterfaces desc).run (.new kernel) actions = some g) :
    TableMatches numInterfaces.toNat g.world ∧
      ∀ action next, (gadget os numInterfaces desc).step g action = some next →
        (∀ event, action = .fetch (.ok event) → ¬IsDetach event ∧ ¬Configures event) →
          next.world.shared = g.world.shared :=
  ⟨tableMatches_of_run few runs, fun _ _ stepped other =>
    shared_of_worldStep (gadget_worldStep few stepped) other⟩

end Runs

/-- Two interfaces configured, reset and configured again, with calls between. -/
theorem endpointTable_characterised_reconfigured :
    ∃ g, (gadget .counting 2 ⟨[], [], [], [], none, none, none⟩).run (.new 0) [
        .fetch (.ok (.setConfiguration 1)), .poll .rumble 0, .fetch (.error eagain),
        .fetch (.ok .reset), .fetch (.ok (.setConfiguration 1))] = some g ∧
      TableMatches (2 : UInt8).toNat g.world := by
  have runs : (gadget .counting 2 ⟨[], [], [], [], none, none, none⟩).run (.new 0) [
      .fetch (.ok (.setConfiguration 1)), .poll .rumble 0, .fetch (.error eagain),
      .fetch (.ok .reset), .fetch (.ok (.setConfiguration 1))] = some _ := rfl
  exact ⟨_, runs, (endpointTable_characterised (by decide) runs).1⟩

end X360Gadget.Transport
