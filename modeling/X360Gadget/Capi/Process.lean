import X360Gadget.Capi.Open
import X360Gadget.Std.Holdings
import X360Gadget.Std.Machine

/-!
# Descriptors over opens and closes

A process opens and closes receivers in any order. Its descriptors and the
receivers behind its handles are `Holdings`: a successful open hands a new
descriptor to a new receiver, a close releases it, and an open that fails after
it obtained its descriptor leaks it.
-/

namespace X360Gadget.Capi

open X360Gadget.Descriptors X360Gadget.Kernel X360Gadget.Session X360Gadget.Std

variable {K : Type}

/-- The open raw-gadget descriptors, and the receivers behind the open handles. -/
structure Process (K : Type) where
  fds : Finset Int32
  receivers : Nat → Option (WirelessReceiver (RawGadgetTransport K))

/-- Nothing is open. -/
def Process.new : Process K where
  fds := ∅
  receivers := fun _ => none

/-- A call of the process; NULL is `none`. -/
inductive ProcessAction (K : Type) where
  | x360Open (numSlots : Int32) (driver device : Option CString) (env : OpenEnvironment K)
      (handle : Nat)
  | x360Close (handle : Option Nat)

/-- `open` returns no descriptor that is open, and no receiver is placed where one
lives. Only handles of open receivers are closed. -/
def process : Machine (Process K) (ProcessAction K) where
  step p
    | .x360Open numSlots driver device env handle =>
        if FreshFd env.replies p.fds ∧ (p.receivers handle).isNone then
          match x360Open env numSlots driver device p.fds with
          | .ok (.ok (some receiver), fds) =>
              some { fds, receivers := Function.update p.receivers handle (some receiver) }
          | .ok (.ok none, fds) => some { p with fds }
          | .error _ => none
        else none
    | .x360Close none => some { p with fds := @x360Close K none p.fds }
    | .x360Close (some handle) =>
        (p.receivers handle).map fun receiver =>
          { fds := x360Close (some receiver) p.fds
            receivers := Function.update p.receivers handle none }

/-- The open descriptors are those of the open receivers. -/
def NoLeak (p : Process K) : Prop :=
  ∀ fd, fd ∈ p.fds ↔ ∃ handle receiver, p.receivers handle = some receiver ∧
    receiver.transport.fd = fd

/-- An open does not fail once it has its descriptor. -/
def CallsCleanly (_ : Process K) : ProcessAction K → Prop
  | .x360Open numSlots driver device env _ => OpensCleanly env numSlots driver device
  | .x360Close _ => True

/-! ## One call -/

/-- What a call can do to the process. -/
inductive ProcessStep (p : Process K) : ProcessAction K → Process K → Prop where
  | refused {numSlots driver device env handle} (clean : OpensCleanly env numSlots driver device)
      (null : x360Open env numSlots driver device p.fds = .ok (.ok none, p.fds)) :
      ProcessStep p (.x360Open numSlots driver device env handle) p
  | abandoned {numSlots driver device env handle} (fd : Int32)
      (unclean : ¬OpensCleanly env numSlots driver device) (fresh : fd ∉ p.fds)
      (null : x360Open env numSlots driver device p.fds = .ok (.ok none, insert fd p.fds)) :
      ProcessStep p (.x360Open numSlots driver device env handle) { p with fds := insert fd p.fds }
  | opened {numSlots driver device env handle}
      (receiver : WirelessReceiver (RawGadgetTransport K))
      (clean : OpensCleanly env numSlots driver device) (fresh : receiver.transport.fd ∉ p.fds)
      (idle : p.receivers handle = none)
      (returned : x360Open env numSlots driver device p.fds =
        .ok (.ok (some receiver), insert receiver.transport.fd p.fds)) :
      ProcessStep p (.x360Open numSlots driver device env handle)
        { fds := insert receiver.transport.fd p.fds
          receivers := Function.update p.receivers handle (some receiver) }
  | ignored : ProcessStep p (.x360Close none) p
  | closed {handle} (receiver : WirelessReceiver (RawGadgetTransport K))
      (live : p.receivers handle = some receiver) :
      ProcessStep p (.x360Close (some handle))
        { fds := p.fds.erase receiver.transport.fd
          receivers := Function.update p.receivers handle none }

/-- Every step of the process is one of those that `ProcessStep` lists. -/
theorem process_step {p next : Process K} {action : ProcessAction K}
    (stepped : process.step p action = some next) : ProcessStep p action next := by
  cases action with
  | x360Open numSlots driver device env handle =>
      simp only [process] at stepped
      split at stepped
      · next allowed =>
          obtain ⟨fresh, idle⟩ := allowed
          rw [Option.isNone_iff_eq_none] at idle
          obtain ⟨returned, after, called, outcome⟩ :=
            x360Open_outcome env numSlots driver device p.fds
          rw [called] at stepped
          cases outcome with
          | refused after clean kept =>
              obtain rfl := kept fresh
              cases stepped
              exact .refused clean called
          | abandoned unclean opened =>
              cases stepped
              exact .abandoned _ unclean (fresh opened) called
          | opened config accepted clean opened =>
              cases stepped
              exact .opened _ clean (fresh opened) idle called
      · cases stepped
  | x360Close handle =>
      cases handle with
      | none =>
          cases stepped
          exact .ignored
      | some handle =>
          obtain ⟨receiver, live, same⟩ := Option.map_eq_some_iff.mp stepped
          subst same
          exact .closed receiver live

/-! ## The balance -/

/-- The descriptors and who holds them. -/
def Process.holdings (p : Process K) : Holdings Nat Int32 where
  acquired := p.fds
  holds handle := (p.receivers handle).map fun receiver => receiver.transport.fd

@[simp] theorem holds_holdings (p : Process K) (handle : Nat) : p.holdings.holds handle =
    (p.receivers handle).map fun receiver => receiver.transport.fd := rfl

section Balance

variable {p next : Process K} {action : ProcessAction K}

/-- No descriptor leaks exactly when the ledger of descriptors is balanced. -/
theorem noLeak_iff_balanced : NoLeak p ↔ p.holdings.Balanced := by
  simp only [NoLeak, Holdings.Balanced, Process.holdings, Option.map_eq_some_iff]

/-- Replacing what is behind a handle replaces what it holds. -/
theorem map_update {R V : Type} (f : R → V) (receivers : Nat → Option R) (handle : Nat)
    (receiver : Option R) :
    (fun other => (Function.update receivers handle receiver other).map f) =
      Function.update (fun other => (receivers other).map f) handle (receiver.map f) :=
  Function.comp_update (Option.map f) receivers handle receiver

/-- An open that succeeds hands the descriptor to its handle. -/
theorem holdings_opened {handle : Nat} {receiver : WirelessReceiver (RawGadgetTransport K)} :
    Process.holdings ⟨insert receiver.transport.fd p.fds,
        Function.update p.receivers handle (some receiver)⟩ =
      p.holdings.hand handle receiver.transport.fd := by
  rw [Process.holdings, map_update]
  rfl

/-- A close releases the descriptor of its handle. -/
theorem holdings_closed {handle : Nat} {receiver : WirelessReceiver (RawGadgetTransport K)} :
    Process.holdings ⟨p.fds.erase receiver.transport.fd,
        Function.update p.receivers handle none⟩ =
      p.holdings.release handle receiver.transport.fd := by
  rw [Process.holdings, map_update]
  rfl

/-- An open receiver holds its descriptor. -/
theorem holds_of_live {handle : Nat} {receiver : WirelessReceiver (RawGadgetTransport K)}
    (live : p.receivers handle = some receiver) :
    p.holdings.holds handle = some receiver.transport.fd := by
  rw [holds_holdings, live]
  rfl

/-- Every call keeps the descriptors exclusive, also one that leaks. -/
theorem exclusive_step (exclusive : p.holdings.Exclusive)
    (stepped : process.step p action = some next) : next.holdings.Exclusive := by
  cases process_step stepped with
  | refused clean null => exact exclusive
  | abandoned fd unclean fresh null => exact exclusive.leak
  | opened receiver clean fresh idle returned =>
      rw [holdings_opened]
      exact exclusive.hand fresh
  | ignored => exact exclusive
  | closed receiver live =>
      rw [holdings_closed]
      exact exclusive.release (holds_of_live live)

/-- From a balanced state, a call keeps the balance exactly when it does not fail
with its descriptor in hand. -/
theorem noLeak_step_iff (exclusive : p.holdings.Exclusive) (noLeak : NoLeak p)
    (stepped : process.step p action = some next) : NoLeak next ↔ CallsCleanly p action := by
  have balanced := noLeak_iff_balanced.mp noLeak
  rw [noLeak_iff_balanced]
  cases process_step stepped with
  | refused clean null => exact iff_of_true balanced clean
  | abandoned fd unclean fresh null =>
      exact iff_of_false (Holdings.not_balanced_leak exclusive fresh) unclean
  | opened receiver clean fresh idle returned =>
      refine iff_of_true ?_ clean
      rw [holdings_opened]
      apply balanced.hand
      rw [holds_holdings, idle]
      rfl
  | ignored => exact iff_of_true balanced trivial
  | closed receiver live =>
      refine iff_of_true ?_ trivial
      rw [holdings_closed]
      exact balanced.release exclusive (holds_of_live live)

/-- An open that returns NULL leaves the descriptors as they were exactly when it
did not fail with its descriptor in hand. -/
theorem null_iff {numSlots : Int32} {driver device : Option CString} {env : OpenEnvironment K}
    {handle : Nat} {after : Finset Int32}
    (stepped : process.step p (.x360Open numSlots driver device env handle) = some next)
    (null : x360Open env numSlots driver device p.fds = .ok (.ok none, after)) :
    after = p.fds ↔ OpensCleanly env numSlots driver device := by
  cases process_step stepped with
  | refused clean called =>
      cases called.symm.trans null
      exact iff_of_true rfl clean
  | abandoned fd unclean fresh called =>
      cases called.symm.trans null
      refine iff_of_false ?_ unclean
      rw [Finset.insert_eq_self]
      exact fresh
  | opened receiver clean fresh idle called => cases called.symm.trans null

end Balance

/-! ## Every run -/

/-- The process starts without descriptors and without receivers. -/
theorem exclusive_new : (Process.new : Process K).holdings.Exclusive := by
  refine ⟨?_, ?_⟩
  · rintro owner resource ⟨⟩
  · rintro first second resource ⟨⟩

/-- A process that opened nothing leaks nothing. -/
theorem noLeak_new : NoLeak (Process.new : Process K) := by
  intro fd
  constructor
  · rintro ⟨⟩
  · rintro ⟨handle, receiver, ⟨⟩, -⟩

/-- Along every sequence of opens and closes, from any replies, the open descriptors
are those of the open receivers exactly when no open fails with its descriptor in
hand, and an open that returns NULL changes nothing exactly when it does not. -/
theorem noLeak_iff {actions : List (ProcessAction K)} {p : Process K}
    (runs : process.run .new actions = some p) :
    (process.Always NoLeak .new actions ↔ process.EachStep CallsCleanly .new actions) ∧
      ∀ taken before numSlots driver device env handle after,
        taken ++ [.x360Open numSlots driver device env handle] <+: actions →
          process.run .new taken = some before →
            x360Open env numSlots driver device before.fds = .ok (.ok none, after) →
              (after = before.fds ↔ OpensCleanly env numSlots driver device) := by
  refine ⟨?_, ?_⟩
  · refine process.always_iff_eachStep (fun p => p.holdings.Exclusive) NoLeak CallsCleanly
      exclusive_step noLeak_step_iff exclusive_new noLeak_new runs
  · intro taken before numSlots driver device env handle after isPrefix reached null
    obtain ⟨rest, rfl⟩ := isPrefix
    rw [Machine.run_append, Option.bind_eq_some_iff] at runs
    obtain ⟨next, ranOpen, -⟩ := runs
    obtain ⟨state, ran, stepped⟩ := process.run_concat_eq_some.mp ranOpen
    cases reached.symm.trans ran
    exact null_iff stepped null

/-- One receiver opened and closed. -/
theorem noLeak_iff_open_close : ∃ p : Process Unit,
    process.run .new [.x360Open 1 none none ⟨some "udc", .succeeding 3, ()⟩ 0,
      .x360Close (some 0)] = some p ∧
      (process.Always NoLeak .new [.x360Open 1 none none ⟨some "udc", .succeeding 3, ()⟩ 0,
          .x360Close (some 0)] ↔
        process.EachStep CallsCleanly (.new : Process Unit)
          [.x360Open 1 none none ⟨some "udc", .succeeding 3, ()⟩ 0, .x360Close (some 0)]) := by
  have runs : process.run (.new : Process Unit)
      [.x360Open 1 none none ⟨some "udc", .succeeding 3, ()⟩ 0, .x360Close (some 0)] = some _ := rfl
  exact ⟨_, runs, (noLeak_iff runs).1⟩

/-- An open whose `INIT` finds the controller busy returns NULL and leaves its
descriptor open. -/
theorem not_noLeak_busy : ∃ p : Process Unit,
    process.run .new [.x360Open 1 none none ⟨some "udc", .busy 3, ()⟩ 0] = some p ∧
      p.fds = {3} ∧ p.receivers 0 = none ∧ ¬NoLeak p ∧
        x360Open (⟨some "udc", .busy 3, ()⟩ : OpenEnvironment Unit) 1 none none ∅ =
          .ok (.ok none, {3}) := by
  refine ⟨_, rfl, rfl, rfl, ?_, rfl⟩
  intro noLeak
  obtain ⟨handle, receiver, live, -⟩ := (noLeak 3).mp (Finset.mem_singleton_self 3)
  cases live

end X360Gadget.Capi
