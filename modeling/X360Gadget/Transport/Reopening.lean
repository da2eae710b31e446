import Mathlib.Data.List.Basic
import X360Gadget.Kernel.Closed
import X360Gadget.Transport.Gadget

/-!
# Transports that follow each other

Every thread of a transport makes its calls on the number of one descriptor. `drop`
closes it, without the lock and so also while the ep0 thread handles an event, and
joins the ep0 thread, but no reader thread. Once it is closed the next transport may get
the number. `transports_isolated` says that this disturbs no transport that is open, and
`reports_swallowed` how many of its reports the readers left over can take.
-/

namespace X360Gadget.Transport

open X360Gadget.Descriptors X360Gadget.Kernel X360Gadget.Protocol X360Gadget.Std

variable {K : Type}

/-! ## The process -/

/-- A transport is in use, or `drop` waits for its ep0 thread, or it is gone. -/
inductive Tenure where
  | live
  | closing
  | closed
deriving DecidableEq, Repr

/-- A transport of the process. -/
structure Opened (K : Type) where
  fd : Int32
  config : ConfigDescriptorSet
  tenure : Tenure
  gadget : Gadget K

/-- The transports in the order in which they were opened. -/
abbrev Transports (K : Type) := List (Opened K)

/-- A transport is opened, steps or is dropped. -/
inductive TransportsAction (K : Type) where
  /-- `RawGadgetTransport::new` succeeds. -/
  | new (fd : Int32) (config : ConfigDescriptorSet) (kernel : K)
  /-- The owner of a transport calls it. -/
  | caller (i : Nat) (action : GadgetAction)
  /-- The ep0 thread's `EVENT_FETCH` on the device of a transport returns. -/
  | fetch (i device : Nat) (result : Except Errno UsbRawControlEvent)
  /-- A reader thread's `EP_READ` on the device of a transport returns. -/
  | epOut (i device : Nat) (reader : Reader) (read : Except Errno (Int32 × IoBuffer 32))
  /-- `drop` closes the descriptor, between two events of the ep0 thread or within one,
  after so many of its calls. -/
  | close (i : Nat) (within : Option (UsbRawControlEvent × Nat))
  /-- `drop` has joined the ep0 thread and ends. -/
  | joined (i : Nat)

/-- The steps that the owner takes, but for `drop`. -/
def IsCall : GadgetAction → Prop
  | .lookup _ _ | .epWrite | .poll _ _ | .waitReady | .writeDescriptor => True
  | .fetch _ | .epOut _ _ | .drop => False

instance : DecidablePred IsCall
  | .lookup _ _ | .epWrite | .poll _ _ | .waitReady | .writeDescriptor => .isTrue trivial
  | .fetch _ | .epOut _ _ | .drop => .isFalse id

/-- The gadget on another device. -/
def Gadget.on {D : Type} (g : Gadget K) (kernel : D) : Gadget D where
  world :=
    { kernel
      log := g.world.log
      shared := g.world.shared
      poisoned := g.world.poisoned
      readers := g.world.readers }
  ep0Alive := g.ep0Alive
  output := g.output
  writing := g.writing
  closed := g.closed

/-- The gadget once its ep0 thread is done with the event it was at when the descriptor
was closed. -/
def Opened.closing (os : Os K) (o : Opened K) :
    Option (UsbRawControlEvent × Nat) → Gadget K
  | none => o.gadget
  | some (event, calls) =>
      let after := stepFetch (closingAfter os) o.config.numInterfaces
        (buildDescriptorBytes o.config) (o.gadget.on (o.gadget.world.kernel, calls)) (.ok event)
      after.on after.world.kernel.1

namespace Transports

/-- The transport whose device a number stands for. -/
def holder (s : Transports K) (fd : Int32) : Option Nat :=
  s.findIdx? fun o => o.tenure = .live ∧ o.fd = fd

/-- A call of transport `i` that returns may have gone to the device: it was open under
the same number at some time since `i` was opened. -/
def Reaches (s : Transports K) (i device : Nat) : Prop :=
  i ≤ device ∧ device < s.length ∧ (s[i]?).map Opened.fd = (s[device]?).map Opened.fd

instance (s : Transports K) (i device : Nat) : Decidable (s.Reaches i device) :=
  inferInstanceAs (Decidable (_ ∧ _ ∧ _))

section Step

variable (os : Os K)

/-- A step of transport `i`. Its calls go to the device its number stands for, which
need not be its own. -/
def act (s : Transports K) (i : Nat) (action : GadgetAction) : Option (Transports K) :=
  (s[i]?).bind fun o =>
    match s.holder o.fd with
    | none =>
        ((gadget (refusing os) o.config.numInterfaces (buildDescriptorBytes o.config)).step o.gadget
          action).map fun g => s.set i { o with gadget := g }
    | some device => (s[device]?).bind fun other =>
        ((gadget os o.config.numInterfaces (buildDescriptorBytes o.config)).step
          (o.gadget.on other.gadget.world.kernel) action).map fun g =>
            (s.set i { o with gadget := g.on o.gadget.world.kernel }).modify device fun other =>
              { other with gadget := other.gadget.on g.world.kernel }

/-- A number is free once no transport is live that has it. -/
def step (s : Transports K) : TransportsAction K → Option (Transports K)
  | .new fd config kernel =>
      if s.holder fd = none then
        some (s ++ [{ fd, config, tenure := .live, gadget := .new kernel }])
      else none
  | .caller i action =>
      if IsCall action ∧ (s[i]?).map Opened.tenure = some .live then s.act os i action else none
  | .fetch i device result =>
      if s.Reaches i device then s.act os i (.fetch result) else none
  | .epOut i device reader read =>
      if s.Reaches i device then s.act os i (.epOut reader read) else none
  | .close i within => (s[i]?).bind fun o =>
      if o.tenure = .live ∧ o.gadget.CallerIdle ∧ (within.isSome → o.gadget.ep0Alive) then
        some (s.set i { o with tenure := .closing, gadget := o.closing os within })
      else none
  | .joined i => (s[i]?).bind fun o =>
      if o.tenure = .closing ∧ o.gadget.ep0Alive = false then
        some (s.set i { o with tenure := .closed, gadget := { o.gadget with closed := true } })
      else none

end Step

end Transports

/-- The transports of one process as a machine. -/
def transports (os : Os K) : Machine (Transports K) (TransportsAction K) where
  step := Transports.step os

/-- No number is taken over from a transport whose `drop` still runs. -/
def TakesOver (s : Transports K) : TransportsAction K → Prop
  | .new fd _ _ => ∀ o ∈ s, o.fd = fd → o.tenure ≠ .closing
  | _ => True

instance (s : Transports K) : DecidablePred (TakesOver s)
  | .new fd _ _ => inferInstanceAs (Decidable (∀ o ∈ s, o.fd = fd → o.tenure ≠ .closing))
  | .caller _ _ | .fetch _ _ _ | .epOut _ _ _ _ | .close _ _ | .joined _ => .isTrue trivial

/-- The step that an action is for the gadget of transport `i`. -/
def own (i : Nat) : TransportsAction K → Option GadgetAction
  | .caller j action => if j = i then some action else none
  | .fetch j _ result => if j = i then some (.fetch result) else none
  | .epOut j _ reader read => if j = i then some (.epOut reader read) else none
  | .new _ _ _ | .close _ _ | .joined _ => none

/-- The transport whose device a returning call went to. -/
def TransportsAction.device : TransportsAction K → Option Nat
  | .fetch _ device _ => some device
  | .epOut _ device _ _ => some device
  | .new _ _ _ | .caller _ _ | .close _ _ | .joined _ => none

/-! ## One step -/

/-- Of the transports with one number only the last may be there still, and one that is
gone has no ep0 thread. -/
structure Orderly (s : Transports K) : Prop where
  succeeded : ∀ {i j : Nat} {o later : Opened K}, s[i]? = some o → s[j]? = some later → i < j →
    o.fd = later.fd → o.tenure = .closed
  ended : ∀ {i : Nat} {o : Opened K}, s[i]? = some o → o.tenure = .closed →
    o.gadget.ep0Alive = false ∧ o.gadget.closed = true

section Orderly

variable {s : Transports K} {i device : Nat} {o : Opened K}

/-- A transport that reaches a device is one of those opened. -/
theorem Transports.Reaches.found (reached : s.Reaches i device) : ∃ o, s[i]? = some o :=
  ⟨_, List.getElem?_eq_getElem (Nat.lt_of_le_of_lt reached.1 reached.2.1)⟩

/-- A live transport holds its descriptor. -/
theorem Orderly.holder_live (orderly : Orderly s) (found : s[i]? = some o)
    (live : o.tenure = .live) : s.holder o.fd = some i := by
  obtain ⟨bound, same⟩ := List.getElem?_eq_some_iff.mp found
  refine List.findIdx?_eq_some_iff_getElem.mpr ⟨bound, ?_, ?_⟩
  · rw [same]
    exact decide_eq_true ⟨live, rfl⟩
  · intro j before holds
    obtain ⟨stillLive, sameFd⟩ := of_decide_eq_true holds
    have closed := orderly.succeeded (List.getElem?_eq_getElem (Nat.lt_trans before bound)) found
      before sameFd
    cases stillLive.symm.trans closed

/-- Nobody holds the descriptor of a transport that is closing. -/
theorem Orderly.holder_closing (orderly : Orderly s) (found : s[i]? = some o)
    (closing : o.tenure = .closing) : s.holder o.fd = none := by
  refine List.findIdx?_eq_none_iff.mpr fun other member => decide_eq_false ?_
  rintro ⟨live, sameFd⟩
  obtain ⟨j, atJ⟩ := List.getElem?_of_mem member
  rcases Nat.lt_trichotomy i j with before | rfl | after
  · cases closing.symm.trans (orderly.succeeded found atJ before sameFd.symm)
  · cases found.symm.trans atJ
    cases closing.symm.trans live
  · cases live.symm.trans (orderly.succeeded atJ found after sameFd)

/-- A call of a transport that is not gone went to its own device. -/
theorem Orderly.reaches (orderly : Orderly s) (found : s[i]? = some o)
    (current : o.tenure ≠ .closed) (reached : s.Reaches i device) : device = i := by
  obtain ⟨notBefore, bound, sameFd⟩ := reached
  rw [found, List.getElem?_eq_getElem bound, Option.map_some, Option.map_some,
    Option.some.injEq] at sameFd
  refine Nat.le_antisymm (Nat.le_of_not_lt fun after => current ?_) notBefore
  exact orderly.succeeded found (List.getElem?_eq_getElem bound) after sameFd

end Orderly

/-- The kernel that answers the calls of a transport that is not gone. -/
def Tenure.answers (os : Os K) : Tenure → Os K
  | .live => os
  | .closing | .closed => refusing os

section Act

variable {os : Os K} {s next : Transports K} {i : Nat} {o : Opened K}

/-- Modifying an entry that was just set. -/
theorem modify_set {α : Type} {l : List α} {i : Nat} {a : α} {f : α → α} :
    (l.set i a).modify i f = l.set i (f a) := by
  refine List.ext_getElem? fun j => ?_
  rw [List.getElem?_modify, List.getElem?_set, List.getElem?_set]
  by_cases same : i = j
  · subst same
    by_cases bound : i < l.length <;> simp [bound]
  · simp [same]

/-- Modifying an entry by what leaves it as it is. -/
theorem modify_self {α : Type} {l : List α} {i : Nat} {a : α} {f : α → α}
    (found : l[i]? = some a) (same : f a = a) : l.modify i f = l := by
  refine List.ext_getElem? fun j => ?_
  rw [List.getElem?_modify]
  by_cases here : i = j
  · subst here
    rw [found]
    exact congrArg some ((if_pos rfl).trans same)
  · simp [here]

/-- A transport that is not gone takes the step of its gadget. -/
theorem Orderly.act_current (orderly : Orderly s) (found : s[i]? = some o)
    (current : o.tenure ≠ .closed) (action : GadgetAction) :
    s.act os i action = ((gadget (o.tenure.answers os) o.config.numInterfaces
      (buildDescriptorBytes o.config)).step o.gadget action).map fun g =>
        s.set i { o with gadget := g } := by
  rw [Transports.act, found, Option.bind_some]
  cases tenure : o.tenure with
  | live =>
      rw [orderly.holder_live found tenure]
      dsimp only
      rw [found, Option.bind_some]
      refine congrArg (Option.map · _) (funext fun g => ?_)
      rw [modify_set]
      rfl
  | closing =>
      rw [orderly.holder_closing found tenure]
      rfl
  | closed => exact absurd tenure current

/-- A reader steps in the same way on every kernel. -/
theorem stepEpOut_on (g : Gadget K) (kernel : K) (reader : Reader)
    (read : Except Errno (Int32 × IoBuffer 32)) :
    (stepEpOut (g.on kernel) reader read).on g.world.kernel = stepEpOut g reader read := by
  unfold stepEpOut
  split
  · by_cases closed : g.closed = true
    · have also : (g.on kernel).closed = true := closed
      rw [if_pos closed, if_pos also]
      rfl
    · have also : ¬(g.on kernel).closed = true := closed
      rw [if_neg closed, if_neg also]
      rfl
  · rfl
  · rfl
  · rfl

/-- The step of a reader leaves the kernel as it is. -/
theorem kernel_stepEpOut (g : Gadget K) (reader : Reader)
    (read : Except Errno (Int32 × IoBuffer 32)) :
    (stepEpOut g reader read).world.kernel = g.world.kernel := by
  unfold stepEpOut
  split
  · split <;> rfl
  · rfl
  · rfl
  · rfl

/-- A reader that is left over takes its step and touches no other transport. -/
theorem Transports.act_left (found : s[i]? = some o)
    (closed : o.tenure = .closed) (reader : Reader) (read : Except Errno (Int32 × IoBuffer 32)) :
    s.act os i (.epOut reader read) = if reader ∈ o.gadget.world.readers then
      some (s.set i { o with gadget := stepEpOut o.gadget reader read }) else none := by
  rw [Transports.act, found, Option.bind_some]
  cases held : s.holder o.fd with
  | none =>
      dsimp only [gadget, Gadget.step]
      split <;> rfl
  | some device =>
      obtain ⟨bound, holds, -⟩ := List.findIdx?_eq_some_iff_getElem.mp held
      obtain ⟨live, -⟩ := of_decide_eq_true holds
      have there := List.getElem?_eq_getElem bound
      have different : i ≠ device := by
        rintro rfl
        cases found.symm.trans there
        cases closed.symm.trans live
      dsimp only
      rw [there, Option.bind_some]
      by_cases running : reader ∈ o.gadget.world.readers
      · have also : reader ∈ (o.gadget.on s[device].gadget.world.kernel).world.readers := running
        dsimp only [gadget, Gadget.step]
        rw [if_pos running, if_pos also, Option.map_some, stepEpOut_on]
        refine congrArg some (modify_self (a := s[device]) ?_ ?_)
        · rw [List.getElem?_set_ne different]
          exact there
        · rw [kernel_stepEpOut]
          rfl
      · have also : reader ∉ (o.gadget.on s[device].gadget.world.kernel).world.readers := running
        dsimp only [gadget, Gadget.step]
        rw [if_neg running, if_neg also]
        rfl

/-- Without an ep0 thread nothing is fetched. -/
theorem Transports.act_fetch (found : s[i]? = some o) (ended : o.gadget.ep0Alive = false)
    (result : Except Errno UsbRawControlEvent) : s.act os i (.fetch result) = none := by
  have dead : ¬o.gadget.ep0Alive = true := by
    rw [ended]
    exact Bool.false_ne_true
  rw [Transports.act, found, Option.bind_some]
  cases s.holder o.fd with
  | none =>
      dsimp only [gadget, Gadget.step]
      rw [if_neg dead]
      rfl
  | some device =>
      dsimp only [gadget, Gadget.step]
      cases s[device]? with
      | none => rfl
      | some other =>
          have also : ¬(o.gadget.on other.gadget.world.kernel).ep0Alive = true := dead
          rw [Option.bind_some, if_neg also]
          rfl

end Act

/-- The steps of an orderly process. -/
inductive TransportsStep (os : Os K) (s : Transports K) :
    TransportsAction K → Transports K → Prop where
  | new (fd : Int32) (config : ConfigDescriptorSet) (kernel : K)
      (free : ∀ o ∈ s, o.fd = fd → o.tenure = .closed) : TransportsStep os s (.new fd config kernel)
        (s ++ [{ fd, config, tenure := .live, gadget := .new kernel }])
  /-- A transport that is not gone moves as its gadget does. -/
  | moved (action : TransportsAction K) (i : Nat) (o : Opened K) (step : GadgetAction)
      (g : Gadget K) (found : s[i]? = some o) (current : o.tenure ≠ .closed)
      (isOwn : own i action = some step)
      (stays : ∀ device, action.device = some device → device = i)
      (asked : IsCall step → o.tenure = .live)
      (stepped : (gadget (o.tenure.answers os) o.config.numInterfaces
        (buildDescriptorBytes o.config)).step o.gadget step = some g) :
      TransportsStep os s action (s.set i { o with gadget := g })
  /-- A reader of a transport that is gone returns from a call. -/
  | left (i device : Nat) (o : Opened K) (reader : Reader)
      (read : Except Errno (Int32 × IoBuffer 32)) (found : s[i]? = some o)
      (closed : o.tenure = .closed) (running : reader ∈ o.gadget.world.readers)
      (reached : s.Reaches i device) : TransportsStep os s (.epOut i device reader read)
        (s.set i { o with gadget := stepEpOut o.gadget reader read })
  | close (i : Nat) (within : Option (UsbRawControlEvent × Nat)) (o : Opened K)
      (found : s[i]? = some o) (live : o.tenure = .live)
      (running : within.isSome → o.gadget.ep0Alive = true) : TransportsStep os s (.close i within)
        (s.set i { o with tenure := .closing, gadget := o.closing os within })
  | joined (i : Nat) (o : Opened K) (found : s[i]? = some o) (closing : o.tenure = .closing)
      (ended : o.gadget.ep0Alive = false) : TransportsStep os s (.joined i)
        (s.set i { o with tenure := .closed, gadget := { o.gadget with closed := true } })

section Step

variable {os : Os K} {s next : Transports K} {action : TransportsAction K}

/-- Every step of the transports is one of those that `TransportsStep` lists. -/
theorem transports_step (orderly : Orderly s)
    (stepped : ((transports os).guarded TakesOver).step s action = some next) :
    TransportsStep os s action next := by
  obtain ⟨takesOver, stepped⟩ := Machine.guarded_step.mp stepped
  change s.step os action = some next at stepped
  cases action with
  | new fd config kernel =>
      simp only [Transports.step, Option.ite_none_right_eq_some, Option.some.injEq] at stepped
      obtain ⟨free, rfl⟩ := stepped
      refine .new fd config kernel fun o member same => ?_
      have notLive := List.findIdx?_eq_none_iff.mp free o member
      cases tenure : o.tenure with
      | live => exact absurd ⟨tenure, same⟩ (of_decide_eq_false notLive)
      | closing => exact absurd tenure (takesOver o member same)
      | closed => rfl
  | caller i call =>
      simp only [Transports.step, Option.ite_none_right_eq_some, Option.map_eq_some_iff] at stepped
      obtain ⟨⟨-, o, found, live⟩, acted⟩ := stepped
      have current : o.tenure ≠ .closed := by
        rw [live]
        decide
      rw [orderly.act_current found current, Option.map_eq_some_iff] at acted
      obtain ⟨g, moved, rfl⟩ := acted
      refine .moved _ i o call g found current (if_pos rfl) ?_ (fun _ => live) moved
      rintro device ⟨⟩
  | fetch i device result =>
      simp only [Transports.step, Option.ite_none_right_eq_some] at stepped
      obtain ⟨reached, acted⟩ := stepped
      obtain ⟨o, found⟩ := reached.found
      by_cases closed : o.tenure = .closed
      · rw [Transports.act_fetch found (orderly.ended found closed).1] at acted
        cases acted
      · rw [orderly.act_current found closed, Option.map_eq_some_iff] at acted
        obtain ⟨g, moved, rfl⟩ := acted
        refine .moved _ i o (.fetch result) g found closed (if_pos rfl) ?_ False.elim moved
        rintro _ ⟨⟩
        exact orderly.reaches found closed reached
  | epOut i device reader read =>
      simp only [Transports.step, Option.ite_none_right_eq_some] at stepped
      obtain ⟨reached, acted⟩ := stepped
      obtain ⟨o, found⟩ := reached.found
      by_cases closed : o.tenure = .closed
      · rw [Transports.act_left found closed, Option.ite_none_right_eq_some,
          Option.some.injEq] at acted
        obtain ⟨running, rfl⟩ := acted
        exact .left i device o reader read found closed running reached
      · rw [orderly.act_current found closed, Option.map_eq_some_iff] at acted
        obtain ⟨g, moved, rfl⟩ := acted
        refine .moved _ i o (.epOut reader read) g found closed (if_pos rfl) ?_ False.elim moved
        rintro _ ⟨⟩
        exact orderly.reaches found closed reached
  | close i within =>
      simp only [Transports.step, Option.bind_eq_some_iff, Option.ite_none_right_eq_some,
        Option.some.injEq] at stepped
      obtain ⟨o, found, ⟨live, -, running⟩, rfl⟩ := stepped
      exact .close i within o found live running
  | joined i =>
      simp only [Transports.step, Option.bind_eq_some_iff, Option.ite_none_right_eq_some,
        Option.some.injEq] at stepped
      obtain ⟨o, found, ⟨closing, ended⟩, rfl⟩ := stepped
      exact .joined i o found closing ended

/-- What replaces a transport keeps its number and its end. -/
theorem Orderly.set (orderly : Orderly s) {i : Nat} {o o' : Opened K} (found : s[i]? = some o)
    (sameFd : o'.fd = o.fd) (keeps : o.tenure = .closed → o'.tenure = .closed)
    (ended : o'.tenure = .closed → o'.gadget.ep0Alive = false ∧ o'.gadget.closed = true) :
    Orderly (s.set i o') := by
  have before : ∀ {j : Nat} {later : Opened K}, (s.set i o')[j]? = some later →
      i = j ∧ later = o' ∨ s[j]? = some later := by
    intro j later atJ
    rw [List.getElem?_set] at atJ
    by_cases same : i = j
    · rw [if_pos same] at atJ
      split at atJ
      · cases atJ
        exact .inl ⟨same, rfl⟩
      · cases atJ
    · rw [if_neg same] at atJ
      exact .inr atJ
  refine ⟨?_, ?_⟩
  · intro j k first later atJ atK order equalFd
    rcases before atJ with ⟨rfl, rfl⟩ | early
    · rcases before atK with ⟨rfl, rfl⟩ | late
      · exact absurd order (Nat.lt_irrefl _)
      · exact keeps (orderly.succeeded found late order (sameFd.symm.trans equalFd))
    · rcases before atK with ⟨rfl, rfl⟩ | late
      · exact orderly.succeeded early found order (equalFd.trans sameFd)
      · exact orderly.succeeded early late order equalFd
  · intro j later atJ closed
    rcases before atJ with ⟨rfl, rfl⟩ | early
    · exact ended closed
    · exact orderly.ended early closed

/-- Every step of the transports keeps the descriptors orderly. -/
theorem Orderly.step (orderly : Orderly s)
    (stepped : ((transports os).guarded TakesOver).step s action = some next) :
    Orderly next := by
  cases transports_step orderly stepped with
  | new fd config kernel free =>
      refine ⟨?_, ?_⟩
      · intro i j o later atI atJ order sameFd
        obtain ⟨bound, -⟩ := List.getElem?_eq_some_iff.mp atJ
        rw [List.length_append, List.length_singleton] at bound
        have inside : i < s.length := by omega
        rw [List.getElem?_append_left inside] at atI
        by_cases last : j < s.length
        · rw [List.getElem?_append_left last] at atJ
          exact orderly.succeeded atI atJ order sameFd
        · obtain rfl : j = s.length := by omega
          rw [List.getElem?_concat_length] at atJ
          cases atJ
          exact free o (List.mem_of_getElem? atI) sameFd
      · intro i o atI closed
        rcases List.mem_append.mp (List.mem_of_getElem? atI) with earlier | isLast
        · obtain ⟨j, atJ⟩ := List.getElem?_of_mem earlier
          exact orderly.ended atJ closed
        · rw [List.mem_singleton.mp isLast] at closed
          cases closed
  | moved action i o step g found current =>
      exact orderly.set found rfl id fun closed => absurd closed current
  | left i device o reader read found closed running reached =>
      refine orderly.set found rfl id fun _ => ?_
      have kept : (stepEpOut o.gadget reader read).ep0Alive = o.gadget.ep0Alive ∧
          (stepEpOut o.gadget reader read).closed = o.gadget.closed := by
        unfold stepEpOut
        split
        · split <;> exact ⟨rfl, rfl⟩
        · exact ⟨rfl, rfl⟩
        · exact ⟨rfl, rfl⟩
        · exact ⟨rfl, rfl⟩
      rw [kept.1, kept.2]
      exact orderly.ended found closed
  | close i within o found live running =>
      refine orderly.set found rfl (fun closed => ?_) (fun closed => ?_)
      · cases live.symm.trans closed
      · cases closed
  | joined i o found closing ended =>
      exact orderly.set found rfl (fun _ => rfl) fun _ => ⟨ended, rfl⟩

/-- The descriptors of no transport are orderly. -/
theorem orderly_nil : Orderly ([] : Transports K) :=
  ⟨by rintro i j o later ⟨⟩, by rintro i o ⟨⟩⟩

/-- An action is a step of one gadget at most. -/
theorem own_of_ne {i j : Nat} {step : GadgetAction} (isOwn : own i action = some step)
    (different : j ≠ i) : own j action = none := by
  cases action with
  | new | close | joined => rfl
  | caller k | fetch k | epOut k =>
      obtain ⟨rfl, -⟩ := Option.ite_none_right_eq_some.mp isOwn
      exact if_neg different.symm

/-- What a step does to one transport: as long as its tenure lasts, its own step or
nothing. -/
structure MovesTo (os : Os K) (i : Nat) (o : Opened K) (action : TransportsAction K)
    (o' : Opened K) : Prop where
  fd : o'.fd = o.fd
  config : o'.config = o.config
  live : o'.tenure = .live → o.tenure = .live
  closed : o.tenure = .closed → o'.tenure = .closed
  stays : o'.tenure ≠ .closed → own i action ≠ none →
    ∀ device, action.device = some device → device = i
  asked : ∀ step, own i action = some step → IsCall step → o.tenure = .live
  moved : o'.tenure = o.tenure → o.tenure ≠ .closed →
    (gadget (o.tenure.answers os) o.config.numInterfaces (buildDescriptorBytes o.config)).run
      o.gadget (own i action).toList = some o'.gadget

/-- A step of another transport does not move this one. -/
theorem movesTo_of_not_own (os : Os K) {i : Nat} (o : Opened K) (notOwn : own i action = none) :
    MovesTo os i o action o where
  fd := rfl
  config := rfl
  live := id
  closed := id
  stays := fun _ isOwn => absurd notOwn isOwn
  asked := fun step isOwn => nomatch notOwn.symm.trans isOwn
  moved := fun _ _ => by
    rw [notOwn]
    rfl

/-- What a step of the transports does to one of them. -/
theorem TransportsStep.at (stepped : TransportsStep os s action next) {i : Nat} {o : Opened K}
    (found : s[i]? = some o) : ∃ o', next[i]? = some o' ∧ MovesTo os i o action o' := by
  obtain ⟨bound, -⟩ := List.getElem?_eq_some_iff.mp found
  have untouched : ∀ {j : Nat} {x : Opened K}, j ≠ i → own i action = none →
      ∃ o', (s.set j x)[i]? = some o' ∧ MovesTo os i o action o' := by
    intro j x different notOwn
    refine ⟨o, ?_, movesTo_of_not_own os o notOwn⟩
    rw [List.getElem?_set_ne different]
    exact found
  cases stepped with
  | new fd config kernel free =>
      refine ⟨o, ?_, movesTo_of_not_own os o rfl⟩
      rw [List.getElem?_append_left bound]
      exact found
  | moved action j other step g foundJ current isOwn stays asked moved =>
      by_cases same : j = i
      · subst same
        cases found.symm.trans foundJ
        refine ⟨_, List.getElem?_set_self bound, rfl, rfl, id, id, fun _ _ => stays, ?_, ?_⟩
        · intro other isOther isCall
          cases isOwn.symm.trans isOther
          exact asked isCall
        · intro _ _
          rw [isOwn, Option.toList_some, Machine.run_cons]
          exact congrArg (Option.bind · _) moved
      · exact untouched same (own_of_ne isOwn (Ne.symm same))
  | left j device other reader read foundJ closed running reached =>
      by_cases same : j = i
      · subst same
        cases found.symm.trans foundJ
        refine ⟨_, List.getElem?_set_self bound, rfl, rfl, id, id,
          fun current => absurd closed current, ?_, fun _ current => absurd closed current⟩
        intro step isOwn isCall
        cases (if_pos rfl : own j (.epOut j device reader read : TransportsAction K) = _).symm.trans
          isOwn
        exact isCall.elim
      · exact untouched same (if_neg same)
  | close j within other foundJ live running =>
      by_cases same : j = i
      · subst same
        cases found.symm.trans foundJ
        refine ⟨_, List.getElem?_set_self bound, rfl, rfl, nofun, ?_, fun _ => nofun, nofun, ?_⟩
        · intro closed
          cases live.symm.trans closed
        · intro sameTenure
          cases sameTenure.trans live
      · exact untouched same rfl
  | joined j other foundJ closing ended =>
      by_cases same : j = i
      · subst same
        cases found.symm.trans foundJ
        refine ⟨_, List.getElem?_set_self bound, rfl, rfl, nofun, fun _ => rfl, fun _ => nofun,
          nofun, ?_⟩
        intro sameTenure
        cases sameTenure.trans closing
      · exact untouched same rfl

end Step

/-! ## Runs -/

section Runs

variable {os : Os K} {s middle : Transports K} {before after : List (TransportsAction K)}
  {fd : Int32} {config : ConfigDescriptorSet} {kernel : K}

/-- A run up to an opening, the opening and what follows. -/
theorem runs_split
    (runs : (transports os).run [] (before ++ .new fd config kernel :: after) = some s)
    (settled : (transports os).EachStep TakesOver [] (before ++ .new fd config kernel :: after))
    (reached : (transports os).run [] before = some middle) :
    (∀ o ∈ middle, o.fd = fd → o.tenure = .closed) ∧
      Orderly (middle ++ [{ fd, config, tenure := .live, gadget := .new kernel }]) ∧
      ((transports os).guarded TakesOver).run
        (middle ++ [{ fd, config, tenure := .live, gadget := .new kernel }]) after = some s := by
  have guarded := Machine.run_guarded_iff.mpr ⟨runs, settled⟩
  rw [Machine.run_append, Option.bind_eq_some_iff] at guarded
  obtain ⟨state, toMiddle, rest⟩ := guarded
  obtain rfl : middle = state :=
    Option.some.inj (reached.symm.trans (Machine.run_guarded_iff.mp toMiddle).1)
  rw [Machine.run_cons, Option.bind_eq_some_iff] at rest
  obtain ⟨next, opened, rest⟩ := rest
  have orderly : Orderly middle := ((transports os).guarded TakesOver).run_invariant Orderly
    Orderly.step orderly_nil toMiddle
  have orderlyNext := orderly.step opened
  cases transports_step orderly opened with
  | new fd config kernel free => exact ⟨free, orderlyNext, rest⟩
  | moved action i o step g found current isOwn => cases isOwn

/-- What a run does to one transport: as long as its tenure lasts, its own steps. -/
theorem at_of_run {start : Transports K} {i : Nat} {o : Opened K} (orderly : Orderly start)
    (found : start[i]? = some o)
    (runs : ((transports os).guarded TakesOver).run start after = some s) :
    ∃ o', s[i]? = some o' ∧ o'.fd = o.fd ∧ o'.config = o.config ∧
      (o'.tenure = .live → o.tenure = .live) ∧
      (o'.tenure = o.tenure → o.tenure ≠ .closed →
        (∀ action ∈ after, own i action ≠ none →
          ∀ device, action.device = some device → device = i) ∧
        (∀ step ∈ after.filterMap (own i), IsCall step → o.tenure = .live) ∧
        (gadget (o.tenure.answers os) o.config.numInterfaces (buildDescriptorBytes o.config)).run
          o.gadget (after.filterMap (own i)) = some o'.gadget) := by
  induction after using List.reverseRecOn generalizing s with
  | nil =>
      cases runs
      exact ⟨o, found, rfl, rfl, id, fun _ _ => ⟨nofun, nofun, rfl⟩⟩
  | append_singleton earlier action ih =>
      obtain ⟨state, reached, stepped⟩ := Machine.run_concat_eq_some _ |>.mp runs
      obtain ⟨o₁, found₁, fd₁, config₁, live₁, isolated₁⟩ := ih reached
      have orderly₁ : Orderly state := ((transports os).guarded TakesOver).run_invariant Orderly
        Orderly.step orderly reached
      obtain ⟨o₂, found₂, moves⟩ := (transports_step orderly₁ stepped).at found₁
      refine ⟨o₂, found₂, moves.fd.trans fd₁, moves.config.trans config₁,
        fun live => live₁ (moves.live live), fun same current => ?_⟩
      -- A tenure that is the same at both ends was the same in between.
      have same₁ : o₁.tenure = o.tenure := by
        cases tenure₁ : o₁.tenure with
        | live => exact (live₁ tenure₁).symm
        | closed => exact absurd (same.symm.trans (moves.closed tenure₁)) current
        | closing =>
            cases tenure : o.tenure with
            | live => cases tenure₁.symm.trans (moves.live (same.trans tenure))
            | closing => rfl
            | closed => exact absurd tenure current
      obtain ⟨stayed, asked, ran⟩ := isolated₁ same₁ current
      have last : [action].filterMap (own i) = (own i action).toList := by
        rw [List.filterMap_cons]
        cases own i action <;> rfl
      refine ⟨?_, ?_, ?_⟩
      · intro other member isOwn device went
        rcases List.mem_append.mp member with before | isLast
        · exact stayed other before isOwn device went
        · cases List.mem_singleton.mp isLast
          exact moves.stays (fun closed => current (same.symm.trans closed)) isOwn device went
      · intro step member isCall
        rw [List.filterMap_append, last] at member
        rcases List.mem_append.mp member with before | isLast
        · exact asked step before isCall
        · exact same₁.symm.trans (moves.asked step (Option.mem_toList.mp isLast) isCall)
      · have moved := moves.moved (same.trans same₁.symm) (same₁ ▸ current)
        rw [same₁, config₁] at moved
        rw [List.filterMap_append, Machine.run_append, ran, Option.bind_some, last]
        exact moved

/-- Whatever the other transports of the process do, and the threads that are left over
from those before, a transport that is live has gone through its own steps and no
other, and each call of its threads went to its own device. -/
theorem transports_isolated
    (runs : (transports os).run [] (before ++ .new fd config kernel :: after) = some s)
    (settled : (transports os).EachStep TakesOver [] (before ++ .new fd config kernel :: after))
    (reached : (transports os).run [] before = some middle) {o : Opened K}
    (found : s[middle.length]? = some o) (live : o.tenure = .live) :
    (gadget os config.numInterfaces (buildDescriptorBytes config)).run (.new kernel)
        (after.filterMap (own middle.length)) = some o.gadget ∧
      ∀ action ∈ after, own middle.length action ≠ none →
        ∀ device, action.device = some device → device = middle.length := by
  obtain ⟨-, orderly, follows⟩ := runs_split runs settled reached
  obtain ⟨o', found', -, -, -, isolated⟩ :=
    at_of_run orderly List.getElem?_concat_length follows
  cases found.symm.trans found'
  obtain ⟨stays, -, ran⟩ := isolated live nofun
  exact ⟨ran, stays⟩

end Runs

/-- A transport that was configured and dropped, its reader being between two calls. -/
def firstTransport : List (TransportsAction Int32) :=
  [.new 3 oneSlot 0, .fetch 0 0 (.ok (.setConfiguration 1)), .close 0 none,
    .fetch 0 0 (.error 9), .joined 0]

/-- Its successor is configured, and the reader left over takes a report. -/
def secondTransport : List (TransportsAction Int32) :=
  [.fetch 1 1 (.ok (.setConfiguration 1)),
    .epOut 0 1 ⟨0, 1⟩ (packetRead [0, 8, 0, 1, 2, 0, 0, 0] (by decide))]

/-- A transport on a reused number runs as it would run alone. -/
theorem transports_isolated_reused : ∃ s o,
    (transports .counting).run [] (firstTransport ++ .new 3 oneSlot 0 :: secondTransport) =
      some s ∧ s[1]? = some o ∧
      (gadget .counting 1 (buildDescriptorBytes oneSlot)).run (.new 0)
        [.fetch (.ok (.setConfiguration 1))] = some o.gadget := by
  have reached : ((transports .counting).run [] firstTransport).map List.length = some 1 := by
    decide +kernel
  obtain ⟨middle, reached, one⟩ := Option.map_eq_some_iff.mp reached
  have ran : (((transports .counting).guarded TakesOver).run []
      (firstTransport ++ .new 3 oneSlot 0 :: secondTransport)).map
        (fun s => (s[1]?).map Opened.tenure) = some (some .live) := by
    decide +kernel
  obtain ⟨s, ran, there⟩ := Option.map_eq_some_iff.mp ran
  obtain ⟨o, found, live⟩ := Option.map_eq_some_iff.mp there
  obtain ⟨runs, settled⟩ := Machine.run_guarded_iff.mp ran
  obtain ⟨isolated, -⟩ := transports_isolated runs settled reached (one ▸ found) live
  rw [one] at isolated
  exact ⟨s, o, runs, found, isolated⟩

/-- A number that is taken over while `drop` waits: the old ep0 thread answers the host of
the new transport. -/
example : ((transports .counting).run [] [.new 3 oneSlot 0, .close 0 none, .new 3 oneSlot 0,
    .fetch 0 1 (.ok (.setConfiguration 1))]).map
      (List.map fun o => o.gadget.world.shared.ready) = some [true, false] := by
  decide +kernel

/-! ## Readers left over -/

/-- The read carries a report. -/
def carriesReport (read : Except Errno (Int32 × IoBuffer 32)) : Bool :=
  match epOutIteration read with
  | .ok (.send _) => true
  | _ => false

/-- A reader of another transport takes a report off the device of transport `i`. -/
def takesReport (i : Nat) : TransportsAction K → Bool
  | .epOut j device _ read => j ≠ i ∧ device = i ∧ carriesReport read
  | _ => false

/-- The readers of a transport, if it has the number. -/
def readersOn (fd : Int32) (o : Opened K) : List Reader :=
  if o.fd = fd then o.gadget.world.readers else []

/-- The readers that transports before transport `i` left on the number. -/
def leftOver (fd : Int32) (i : Nat) (s : Transports K) : List Reader :=
  (s.take i).flatMap (readersOn fd)

section LeftOver

variable {os : Os K} {s next : Transports K} {action : TransportsAction K} {fd : Int32} {i : Nat}

/-- Shrinking the part of one entry shrinks the whole by as much. -/
theorem length_flatMap_set {α β : Type} {f : α → List β} {l : List α} {i paid : Nat} {a b : α}
    (found : l[i]? = some a) (less : paid + (f b).length ≤ (f a).length) :
    paid + ((l.set i b).flatMap f).length ≤ (l.flatMap f).length := by
  induction l generalizing i with
  | nil => cases found
  | cons first rest ih =>
      cases i with
      | zero =>
          cases found
          simp only [List.set_cons_zero, List.flatMap_cons, List.length_append]
          omega
      | succ i =>
          have later := ih (List.getElem?_cons_succ ▸ found)
          simp only [List.set_cons_succ, List.flatMap_cons, List.length_append]
          omega

/-- What takes the place of a transport pays from its readers. -/
theorem leftOver_set {j paid : Nat} {o o' : Opened K} (found : s[j]? = some o)
    (less : j < i → paid + (readersOn fd o').length ≤ (readersOn fd o).length)
    (free : ¬j < i → paid = 0) :
    paid + (leftOver fd i (s.set j o')).length ≤ (leftOver fd i s).length := by
  rw [leftOver, leftOver, List.take_set]
  by_cases before : j < i
  · refine length_flatMap_set ?_ (less before)
    rw [List.getElem?_take_of_lt before]
    exact found
  · have outside : (s.take i).length ≤ j := by
      rw [List.length_take]
      omega
    rw [free before, Nat.zero_add, List.set_eq_of_length_le outside]

/-- A reader that is left over ends with the first report it takes. -/
theorem readers_stepEpOut {g : Gadget K} (closed : g.closed = true) {reader : Reader}
    (running : reader ∈ g.world.readers) (read : Except Errno (Int32 × IoBuffer 32)) :
    (if carriesReport read then 1 else 0) + (stepEpOut g reader read).world.readers.length ≤
      g.world.readers.length := by
  have ends : (endReader reader g.world).readers.length + 1 = g.world.readers.length := by
    have some := List.length_pos_of_mem running
    rw [endReader, List.length_erase_of_mem running]
    omega
  unfold carriesReport stepEpOut
  cases epOutIteration read with
  | error panic =>
      change 0 + (endReader reader g.world).readers.length ≤ _
      omega
  | ok outcome =>
      cases outcome with
      | send report =>
          dsimp only
          rw [if_pos closed, if_pos rfl]
          change 1 + (endReader reader g.world).readers.length ≤ _
          omega
      | again => exact Nat.le_of_eq (Nat.zero_add _)
      | exit =>
          change 0 + (endReader reader g.world).readers.length ≤ _
          omega

/-- The budget of a transport against the readers left over: the number stays its own. -/
theorem takesReport_paid (orderly : Orderly s)
    (taken : (s[i]?).map Opened.fd = some fd)
    (stepped : ((transports os).guarded TakesOver).step s action = some next) :
    (if takesReport i action then 1 else 0) + (leftOver fd i next).length ≤
      (leftOver fd i s).length := by
  obtain ⟨owner, atI, rfl⟩ := Option.map_eq_some_iff.mp taken
  have bound : i < s.length := (List.getElem?_eq_some_iff.mp atI).1
  have same : ∀ {j : Nat} {o o' : Opened K}, s[j]? = some o →
      readersOn owner.fd o' = readersOn owner.fd o →
      0 + (leftOver owner.fd i (s.set j o')).length ≤ (leftOver owner.fd i s).length := by
    intro j o o' found equal
    refine leftOver_set found (fun _ => ?_) fun _ => rfl
    rw [equal, Nat.zero_add]
  cases transports_step orderly stepped with
  | new fd config kernel free =>
      rw [leftOver, List.take_append_of_le_length (Nat.le_of_lt bound)]
      exact Nat.le_of_eq (Nat.zero_add _)
  | moved action j o step g found current isOwn stays asked moved =>
      have keeps : takesReport i action = false := by
        cases action with
        | epOut k device reader read =>
            obtain ⟨rfl, -⟩ := Option.ite_none_right_eq_some.mp isOwn
            refine decide_eq_false fun takes => takes.1 ?_
            exact (stays device rfl).symm.trans takes.2.1
        | _ => rfl
      rw [keeps, if_neg Bool.false_ne_true]
      refine leftOver_set found (fun before => ?_) fun _ => rfl
      have other : o.fd ≠ owner.fd := fun sameFd =>
        current (orderly.succeeded found atI before sameFd)
      rw [readersOn, readersOn, if_neg other, if_neg other, Nat.zero_add]
  | left j device o reader read found closed running reached =>
      have paid := readers_stepEpOut (orderly.ended found closed).2 running read
      obtain ⟨notAfter, -, sameFd⟩ := reached
      refine leftOver_set found (fun before => ?_) fun notBefore => ?_
      · by_cases onNumber : o.fd = owner.fd
        · have less : (if takesReport i (.epOut j device reader read : TransportsAction K) then 1
              else 0) ≤ (if carriesReport read then 1 else 0) := by
            split
            · next takes => rw [if_pos (of_decide_eq_true takes).2.2]
            · exact Nat.zero_le _
          rw [readersOn, readersOn, if_pos onNumber, if_pos onNumber]
          exact Nat.le_trans (Nat.add_le_add_right less _) paid
        · have keeps :
              takesReport i (.epOut j device reader read : TransportsAction K) = false := by
            refine decide_eq_false fun takes => onNumber ?_
            rw [found, takes.2.1, atI] at sameFd
            exact Option.some.inj sameFd
          rw [keeps, readersOn, readersOn, if_neg onNumber, if_neg onNumber]
          exact Nat.le_refl 0
      · refine if_neg fun takes => ?_
        obtain ⟨different, there, -⟩ := of_decide_eq_true takes
        omega
  | close j within o found live running =>
      refine leftOver_set found (fun before => ?_) fun _ => rfl
      have other : o.fd ≠ owner.fd := fun sameFd => by
        cases live.symm.trans (orderly.succeeded found atI before sameFd)
      rw [readersOn, readersOn, if_neg other, if_neg other]
      exact Nat.le_refl 0
  | joined j o found closing ended => exact same found rfl

end LeftOver

/-- Of the reports that the host sends to a new transport, the readers that other
transports left over take at most one each, as many as there were on its number when it
was opened. -/
theorem reports_swallowed {os : Os K} {s middle : Transports K}
    {before after : List (TransportsAction K)} {fd : Int32} {config : ConfigDescriptorSet}
    {kernel : K}
    (runs : (transports os).run [] (before ++ .new fd config kernel :: after) = some s)
    (settled : (transports os).EachStep TakesOver [] (before ++ .new fd config kernel :: after))
    (reached : (transports os).run [] before = some middle) :
    after.countP (takesReport middle.length) ≤ (middle.flatMap (readersOn fd)).length := by
  obtain ⟨-, orderly, follows⟩ := runs_split runs settled reached
  have budget := ((transports os).guarded TakesOver).run_budget (takesReport middle.length)
    (fun s => (leftOver fd middle.length s).length)
    (fun s => Orderly s ∧ (s[middle.length]?).map Opened.fd = some fd) ?_ ?_
    ⟨orderly, by rw [List.getElem?_concat_length, Option.map_some]⟩ follows
  · have start : leftOver fd middle.length (middle ++
        [{ fd, config, tenure := .live, gadget := .new kernel }]) =
          middle.flatMap (readersOn fd) := by
      rw [leftOver, List.take_left' rfl]
    rw [start] at budget
    omega
  · intro s action next holds stepped
    refine ⟨holds.1.step stepped, ?_⟩
    obtain ⟨o, found, sameFd⟩ := Option.map_eq_some_iff.mp holds.2
    obtain ⟨o', found', moves⟩ := (transports_step holds.1 stepped).at found
    rw [found', Option.map_some, moves.fd, sameFd]
  · exact fun holds stepped => takesReport_paid holds.1 holds.2 stepped

/-- The reader that the first transport left over takes one report of the second. -/
theorem reports_swallowed_reused : ∃ middle,
    (transports .counting).run [] firstTransport = some middle ∧
      secondTransport.countP (takesReport 1) = 1 ∧
      middle.flatMap (readersOn 3) = [⟨0, 1⟩] ∧
      secondTransport.countP (takesReport 1) ≤ (middle.flatMap (readersOn 3)).length := by
  have reached : ((transports .counting).run [] firstTransport).map
      (fun s => (s.length, s.flatMap (readersOn 3))) = some (1, [⟨0, 1⟩]) := by
    decide +kernel
  obtain ⟨middle, reached, shape⟩ := Option.map_eq_some_iff.mp reached
  obtain ⟨one, left⟩ := Prod.mk.injEq _ _ _ _ ▸ shape
  have ran : (((transports .counting).guarded TakesOver).run []
      (firstTransport ++ .new 3 oneSlot 0 :: secondTransport)).isSome := by
    decide +kernel
  obtain ⟨s, ran⟩ := Option.isSome_iff_exists.mp ran
  obtain ⟨runs, settled⟩ := Machine.run_guarded_iff.mp ran
  have bound := reports_swallowed runs settled reached
  rw [one] at bound
  exact ⟨middle, reached, by decide, left, bound⟩

end X360Gadget.Transport
