import Mathlib.Logic.Function.Basic
import X360Gadget.Std.Machine

/-!
# Waiting for a condition under a mutex

A waiting call locks the mutex and tests a condition on the guarded state. While the
test fails it waits on a condition variable, which gives the lock back and parks the
thread in one step, and it tests again under the lock when it is woken, also for no
reason. `protocol` is all of this in steps, beside the operations that other code
performs on the state; `atomic` is what a caller sees of it, a wait that lasts until
the condition holds. `Disciplined` operations lose no wakeup.
-/

namespace X360Gadget.Std

universe u v w

/-- Operations on a state and the condition that some threads wait for. -/
structure Monitor (S : Type u) (Op : Type v) where
  operations : Machine S Op
  /-- The operation runs under the lock. -/
  locks : Op → Bool
  /-- The operation wakes every parked thread before it gives the lock back. -/
  notifies : S → Op → Bool
  /-- A waiting thread performs the operation between its calls. -/
  owned : Op → Bool
  /-- A thread can call; otherwise it is in the middle of operations of its own. -/
  callable : S → Bool
  /-- A call that finds this under the lock is over. -/
  released : S → Bool

namespace Monitor

/-- Where a thread is in its waiting call. -/
inductive Phase where
  | outside
  | acquiring
  /-- It holds the lock and has yet to look at the condition. -/
  | testing
  /-- It holds the lock and found that the condition fails. -/
  | blocking
  | parked
deriving DecidableEq, Repr

/-- Who holds the lock. -/
inductive Holder (Op : Type v) (Tid : Type w) where
  | waiter (t : Tid)
  | operator (op : Op)
deriving DecidableEq, Repr

/-- The shared value, who holds the lock, and where each thread stands. -/
structure State (S : Type u) (Op : Type v) (Tid : Type w) where
  shared : S
  holder : Option (Holder Op Tid)
  phase : Tid → Phase

/-- A step of one thread, or an operation on the shared value. -/
inductive Action (Op : Type v) (Tid : Type w) where
  | call (t : Tid)
  | acquire (t : Tid)
  | test (t : Tid)
  | block (t : Tid)
  /-- The condition variable returns without a notification. -/
  | wake (t : Tid)
  /-- Other code takes the lock for an operation. -/
  | begin (op : Op)
  /-- It performs the operation and gives the lock back. -/
  | finish
  /-- Other code performs an operation that needs no lock. -/
  | operate (op : Op)
  | act (t : Tid) (op : Op)
deriving DecidableEq, Repr

variable {S : Type u} {Op : Type v} {Tid : Type w}

/-- Before any thread waits. -/
def State.init (shared : S) : State S Op Tid where
  shared
  holder := none
  phase _ := .outside

/-- Parked threads compete for the lock again. -/
def wakeAll (phase : Tid → Phase) : Tid → Phase :=
  fun t => if phase t = .parked then .acquiring else phase t

section Protocol

variable (m : Monitor S Op)

/-- The state after an operation, where it is possible. -/
def perform (s : State S Op Tid) (op : Op) : Option (State S Op Tid) :=
  (m.operations.step s.shared op).map fun shared =>
    { s with shared, phase := if m.notifies s.shared op then wakeAll s.phase else s.phase }

/-- An operation changes the state and wakes whom it notifies. -/
theorem perform_eq_some {s after : State S Op Tid} {op : Op}
    (performed : m.perform s op = some after) : ∃ shared,
      m.operations.step s.shared op = some shared ∧ after = { s with
        shared, phase := if m.notifies s.shared op then wakeAll s.phase else s.phase } := by
  obtain ⟨shared, stepped, rfl⟩ := Option.map_eq_some_iff.mp performed
  exact ⟨shared, stepped, rfl⟩

variable [DecidableEq Tid]

/-- A thread moves to another phase. -/
def State.moved (s : State S Op Tid) (t : Tid) (phase : Phase) : State S Op Tid :=
  { s with phase := Function.update s.phase t phase }

/-- One thread takes one step, or one operation is performed under the lock. -/
def step (s : State S Op Tid) : Action Op Tid → Option (State S Op Tid)
  | .call t =>
      if s.phase t = .outside ∧ m.callable s.shared = true then some (s.moved t .acquiring)
      else none
  | .acquire t =>
      if s.phase t = .acquiring ∧ s.holder = none then
        some { s.moved t .testing with holder := some (.waiter t) }
      else none
  | .test t =>
      if s.phase t = .testing then
        some (if m.released s.shared then { s.moved t .outside with holder := none }
          else s.moved t .blocking)
      else none
  | .block t =>
      if s.phase t = .blocking then some { s.moved t .parked with holder := none } else none
  | .wake t => if s.phase t = .parked then some (s.moved t .acquiring) else none
  | .begin op =>
      if m.owned op = false ∧ m.locks op = true ∧ s.holder = none then
        some { s with holder := some (.operator op) }
      else none
  | .finish =>
      match s.holder with
      | some (.operator op) => (m.perform s op).map fun s => { s with holder := none }
      | _ => none
  | .operate op => if m.owned op = false ∧ m.locks op = false then m.perform s op else none
  | .act t op =>
      if m.owned op = true ∧ s.phase t = .outside ∧ (m.locks op = true → s.holder = none) then
        m.perform s op
      else none

/-- The threads, the lock and the state as a machine. -/
def protocol : Machine (State S Op Tid) (Action Op Tid) where
  step := m.step

/-- The guards of the steps and what they do. -/
inductive Stepped (s : State S Op Tid) : Action Op Tid → State S Op Tid → Prop where
  | call (t : Tid) (outside : s.phase t = .outside) (callable : m.callable s.shared = true) :
      Stepped s (.call t) (s.moved t .acquiring)
  | acquire (t : Tid) (acquiring : s.phase t = .acquiring) (free : s.holder = none) :
      Stepped s (.acquire t) { s.moved t .testing with holder := some (.waiter t) }
  | released (t : Tid) (testing : s.phase t = .testing) (released : m.released s.shared = true) :
      Stepped s (.test t) { s.moved t .outside with holder := none }
  | unreleased (t : Tid) (testing : s.phase t = .testing)
      (unreleased : m.released s.shared = false) : Stepped s (.test t) (s.moved t .blocking)
  | block (t : Tid) (blocking : s.phase t = .blocking) :
      Stepped s (.block t) { s.moved t .parked with holder := none }
  | wake (t : Tid) (parked : s.phase t = .parked) : Stepped s (.wake t) (s.moved t .acquiring)
  | begin (op : Op) (other : m.owned op = false) (locks : m.locks op = true)
      (free : s.holder = none) : Stepped s (.begin op) { s with holder := some (.operator op) }
  | finish (op : Op) (after : State S Op Tid) (holds : s.holder = some (.operator op))
      (performed : m.perform s op = some after) :
      Stepped s .finish { after with holder := none }
  | operate (op : Op) (after : State S Op Tid) (other : m.owned op = false)
      (unlocked : m.locks op = false) (performed : m.perform s op = some after) :
      Stepped s (.operate op) after
  | act (t : Tid) (op : Op) (after : State S Op Tid) (owned : m.owned op = true)
      (outside : s.phase t = .outside) (free : m.locks op = true → s.holder = none)
      (performed : m.perform s op = some after) : Stepped s (.act t op) after

variable {m}

/-- Every step the protocol takes is one of these. -/
theorem protocol_step {s next : State S Op Tid} {action : Action Op Tid}
    (stepped : m.protocol.step s action = some next) : Stepped m s action next := by
  change m.step s action = some next at stepped
  cases action with
  | test t =>
      simp only [step, Option.ite_none_right_eq_some, Option.some.injEq] at stepped
      obtain ⟨testing, rfl⟩ := stepped
      cases released : m.released s.shared with
      | true => exact .released t testing released
      | false => exact .unreleased t testing released
  | finish =>
      simp only [step] at stepped
      split at stepped
      · next op holds =>
          obtain ⟨after, performed, rfl⟩ := Option.map_eq_some_iff.mp stepped
          exact .finish op after holds performed
      · cases stepped
  | operate op =>
      simp only [step, Option.ite_none_right_eq_some] at stepped
      exact .operate op next stepped.1.1 stepped.1.2 stepped.2
  | act t op =>
      simp only [step, Option.ite_none_right_eq_some] at stepped
      exact .act t op next stepped.1.1 stepped.1.2.1 stepped.1.2.2 stepped.2
  | _ =>
      simp only [step, Option.ite_none_right_eq_some, Option.some.injEq] at stepped
      obtain ⟨guard, rfl⟩ := stepped
      first
        | exact .call _ guard.1 guard.2
        | exact .acquire _ guard.1 guard.2
        | exact .block _ guard
        | exact .wake _ guard
        | exact .begin _ guard.1 guard.2.1 guard.2.2

end Protocol

/-! ## No wakeup is lost -/

/-- An operation that makes the condition true runs under the lock and notifies, and none
gets in the way of a thread that calls, unless it is by the only such thread. -/
structure Disciplined (m : Monitor S Op) (Tid : Type w) : Prop where
  announces : ∀ {shared op next}, m.operations.step shared op = some next →
    m.released shared = false → m.released next = true →
      m.locks op = true ∧ (m.notifies shared op = true ∨ m.owned op = true ∧ Subsingleton Tid)
  undisturbed : ∀ {shared op next}, m.operations.step shared op = some next →
    m.callable shared = true → m.callable next = true ∨ m.owned op = true ∧ Subsingleton Tid

/-- A thread past its test holds the lock, nobody waits for what is already true, and
only threads that can call have called. -/
structure Sound (m : Monitor S Op) (s : State S Op Tid) : Prop where
  holds : ∀ t, s.phase t = .testing ∨ s.phase t = .blocking ↔ s.holder = some (.waiter t)
  operator : ∀ op, s.holder = some (.operator op) → m.owned op = false
  waits : ∀ t, s.phase t = .blocking ∨ s.phase t = .parked → m.released s.shared = false
  called : ∀ t, s.phase t ≠ .outside → m.callable s.shared = true

section Wake

variable {phase : Tid → Phase} {t : Tid}

/-- After a notification no thread is parked. -/
theorem wakeAll_ne_parked : wakeAll phase t ≠ .parked := by
  unfold wakeAll
  split
  · exact Phase.noConfusion
  · assumption

/-- A notification moves the parked threads alone. -/
theorem wakeAll_eq_iff {other : Phase} (notAcquiring : other ≠ .acquiring)
    (notParked : other ≠ .parked) : wakeAll phase t = other ↔ phase t = other := by
  unfold wakeAll
  split
  · next parked =>
      rw [parked]
      exact iff_of_false notAcquiring.symm notParked.symm
  · exact Iff.rfl

end Wake

section Preserved

variable {m : Monitor S Op} {s after : State S Op Tid} {op : Op}

/-- A monitor that nobody has entered is sound. -/
theorem Sound.init (shared : S) : Sound m (State.init shared : State S Op Tid) where
  holds t := by
    refine iff_of_false ?_ (Option.some_ne_none _).symm
    rintro (testing | blocking)
    · cases testing
    · cases blocking
  operator op holds := by cases holds
  waits t := by
    rintro (blocking | parked)
    · cases blocking
    · cases parked
  called t inside := absurd rfl inside

/-- An operation leaves the threads that hold the lock where they are. -/
theorem phase_perform_iff (performed : m.perform s op = some after) {t : Tid} {other : Phase}
    (notAcquiring : other ≠ .acquiring) (notParked : other ≠ .parked) :
    after.phase t = other ↔ s.phase t = other := by
  obtain ⟨shared, -, rfl⟩ := perform_eq_some m performed
  dsimp only
  split
  · exact wakeAll_eq_iff notAcquiring notParked
  · exact Iff.rfl

/-- An operation leaves the lock with its holder. -/
theorem holder_perform (performed : m.perform s op = some after) : after.holder = s.holder := by
  obtain ⟨shared, -, rfl⟩ := perform_eq_some m performed
  rfl

/-- Nobody waits for what an operation made true. -/
theorem Sound.waits_perform (sound : Sound m s) (disciplined : m.Disciplined Tid)
    (performed : m.perform s op = some after)
    (exclusive : m.locks op = true → ∀ t, s.phase t ≠ .blocking)
    (alone : m.owned op = true → Subsingleton Tid → ∀ t, s.phase t = .outside) (t : Tid)
    (waiting : after.phase t = .blocking ∨ after.phase t = .parked) :
    m.released after.shared = false := by
  have kept : after.phase t = .blocking ↔ s.phase t = .blocking :=
    phase_perform_iff performed (by decide) (by decide)
  obtain ⟨shared, stepped, rfl⟩ := perform_eq_some m performed
  rw [kept] at waiting
  have before : s.phase t = .blocking ∨ s.phase t = .parked := by
    refine waiting.imp_right fun parked => ?_
    dsimp only at parked
    split at parked
    · exact absurd parked wakeAll_ne_parked
    · exact parked
  refine eq_false_of_ne_true fun released => ?_
  obtain ⟨locks, announced⟩ := disciplined.announces stepped (sound.waits t before) released
  have notBlocking := exclusive locks t
  have parked := waiting.resolve_left notBlocking
  rcases announced with notifies | ⟨owned, single⟩
  · dsimp only at parked
    rw [if_pos notifies] at parked
    exact wakeAll_ne_parked parked
  · rw [alone owned single t] at before
    rcases before with blocking | parked
    · cases blocking
    · cases parked

/-- A thread that is inside after an operation may still be called. -/
theorem Sound.called_perform (sound : Sound m s) (disciplined : m.Disciplined Tid)
    (performed : m.perform s op = some after)
    (alone : m.owned op = true → Subsingleton Tid → ∀ t, s.phase t = .outside) (t : Tid)
    (inside : after.phase t ≠ .outside) : m.callable after.shared = true := by
  have kept : after.phase t = .outside ↔ s.phase t = .outside :=
    phase_perform_iff performed (by decide) (by decide)
  rw [ne_eq, kept] at inside
  obtain ⟨shared, stepped, rfl⟩ := perform_eq_some m performed
  rcases disciplined.undisturbed stepped (sound.called t inside) with callable | ⟨owned, single⟩
  · exact callable
  · exact absurd (alone owned single t) inside

/-- While someone else or nobody holds the lock, no thread is about to park. -/
theorem Sound.not_blocking (sound : Sound m s) (t : Tid)
    (free : s.holder ≠ some (.waiter t)) : s.phase t ≠ .blocking :=
  fun blocking => free ((sound.holds t).mp (.inr blocking))

/-- An operation that leaves its own thread outside keeps the protocol sound. -/
theorem Sound.perform (sound : Sound m s) (disciplined : m.Disciplined Tid)
    (performed : m.perform s op = some after)
    (exclusive : m.locks op = true → ∀ t, s.holder ≠ some (.waiter t))
    (alone : m.owned op = true → Subsingleton Tid → ∀ t, s.phase t = .outside) :
    Sound m after where
  holds t := by
    rw [phase_perform_iff performed (by decide) (by decide),
      phase_perform_iff performed (by decide) (by decide), holder_perform performed]
    exact sound.holds t
  operator op holds := by
    rw [holder_perform performed] at holds
    exact sound.operator op holds
  waits := sound.waits_perform disciplined performed
    (fun locks t => sound.not_blocking t (exclusive locks t)) alone
  called := sound.called_perform disciplined performed alone

variable [DecidableEq Tid]

/-- A thread moves on, and perhaps takes the lock or gives it back. -/
theorem Sound.moved (sound : Sound m s) {t : Tid} {phase : Phase}
    {holder : Option (Holder Op Tid)}
    (here : phase = .testing ∨ phase = .blocking ↔ holder = some (.waiter t))
    (others : ∀ u, u ≠ t → (s.holder = some (.waiter u) ↔ holder = some (.waiter u)))
    (operator : ∀ op, holder = some (.operator op) → s.holder = some (.operator op))
    (waits : phase = .blocking ∨ phase = .parked → m.released s.shared = false)
    (called : phase ≠ .outside → m.callable s.shared = true) :
    Sound m { s.moved t phase with holder } where
  holds u := by
    change Function.update s.phase t phase u = .testing ∨
      Function.update s.phase t phase u = .blocking ↔ holder = some (.waiter u)
    by_cases same : u = t
    · cases same
      rw [Function.update_self]
      exact here
    · rw [Function.update_of_ne same, sound.holds u]
      exact others u same
  operator op holds := sound.operator op (operator op holds)
  waits u := by
    change Function.update s.phase t phase u = .blocking ∨
      Function.update s.phase t phase u = .parked → m.released s.shared = false
    by_cases same : u = t
    · cases same
      rw [Function.update_self]
      exact waits
    · rw [Function.update_of_ne same]
      exact sound.waits u
  called u := by
    change Function.update s.phase t phase u ≠ .outside → m.callable s.shared = true
    by_cases same : u = t
    · cases same
      rw [Function.update_self]
      exact called
    · rw [Function.update_of_ne same]
      exact sound.called u

/-- A thread that gives the lock back. -/
theorem Sound.gives (sound : Sound m s) {t : Tid} {phase : Phase}
    (held : s.phase t = .testing ∨ s.phase t = .blocking)
    (notTesting : phase ≠ .testing) (notBlocking : phase ≠ .blocking)
    (waits : phase = .parked → m.released s.shared = false) :
    Sound m { s.moved t phase with holder := none } := by
  have mine := (sound.holds t).mp held
  have inside : s.phase t ≠ .outside := by
    intro outside
    rw [outside] at held
    revert held
    decide
  refine sound.moved ?_ ?_ (fun _ same => by cases same)
    (Or.rec (absurd · notBlocking) waits) (fun _ => sound.called t inside)
  · exact iff_of_false (not_or_intro notTesting notBlocking) (Option.some_ne_none _).symm
  · intro u other
    rw [mine]
    refine iff_of_false ?_ (Option.some_ne_none _).symm
    intro same
    cases same
    exact other rfl

/-- A thread that does not hold the lock, before and after. -/
theorem Sound.stays (sound : Sound m s) {t : Tid} {phase : Phase}
    (notHeld : ¬(s.phase t = .testing ∨ s.phase t = .blocking))
    (notTesting : phase ≠ .testing) (notBlocking : phase ≠ .blocking)
    (notParked : phase ≠ .parked) (callable : m.callable s.shared = true) :
    Sound m (s.moved t phase) := by
  have stillNotHeld : (phase = .testing ∨ phase = .blocking) ↔ s.holder = some (.waiter t) :=
    iff_of_false (not_or_intro notTesting notBlocking) (notHeld ∘ (sound.holds t).mpr)
  refine sound.moved stillNotHeld (fun _ _ => Iff.rfl) (fun _ => id) ?_ (fun _ => callable)
  exact Or.rec (absurd · notBlocking) (absurd · notParked)

/-- Each step keeps the protocol sound. -/
theorem Sound.step (sound : Sound m s) (disciplined : m.Disciplined Tid)
    {next : State S Op Tid} {action : Action Op Tid} (stepped : Stepped m s action next) :
    Sound m next := by
  cases stepped with
  | call t outside callable =>
      refine sound.stays ?_ (by decide) (by decide) (by decide) callable
      rw [outside]
      decide
  | acquire t acquiring free =>
      have inside : s.phase t ≠ .outside := by
        rw [acquiring]
        decide
      refine sound.moved (iff_of_true (.inl rfl) rfl) ?_ (fun _ => ?_) ?_
        (fun _ => sound.called t inside)
      · intro u other
        rw [free]
        refine iff_of_false (Option.some_ne_none _).symm ?_
        intro same
        cases same
        exact other rfl
      · intro operator
        cases operator
      · rintro (blocking | parked)
        · cases blocking
        · cases parked
  | released t testing released =>
      exact sound.gives (.inl testing) (by decide) (by decide) Phase.noConfusion
  | unreleased t testing unreleased =>
      have mine := (sound.holds t).mp (.inl testing)
      have inside : s.phase t ≠ .outside := by
        rw [testing]
        decide
      exact sound.moved (iff_of_true (.inr rfl) mine) (fun _ _ => Iff.rfl) (fun _ => id)
        (fun _ => unreleased) fun _ => sound.called t inside
  | block t blocking =>
      exact sound.gives (.inr blocking) (by decide) (by decide)
        fun _ => sound.waits t (.inl blocking)
  | wake t parked =>
      have inside : s.phase t ≠ .outside := by
        rw [parked]
        decide
      refine sound.stays ?_ (by decide) (by decide) (by decide) (sound.called t inside)
      rw [parked]
      decide
  | begin op other locks free =>
      refine ⟨fun t => ?_, ?_, sound.waits, sound.called⟩
      · refine iff_of_false ?_ (fun same => by cases same)
        rw [sound.holds t, free]
        exact (Option.some_ne_none _).symm
      · rintro op ⟨⟩
        exact other
  | finish op after holds performed =>
      have other := sound.operator op holds
      have kept := sound.perform disciplined performed
        (fun _ t => by rw [holds]; exact fun same => by cases same)
        (fun owned => absurd (owned.symm.trans other) (by decide))
      have held := (holder_perform performed).trans holds
      refine ⟨fun t => ?_, fun _ same => (by cases same), kept.waits, kept.called⟩
      refine iff_of_false ?_ (Option.some_ne_none _).symm
      rw [kept.holds t, held]
      exact fun same => by cases same
  | operate op after other unlocked performed =>
      exact sound.perform disciplined performed
        (fun locks => absurd (locks.symm.trans unlocked) (by decide))
        fun owned => absurd (owned.symm.trans other) (by decide)
  | act t op after owned outside free performed =>
      refine sound.perform disciplined performed ?_ ?_
      · intro locks u
        rw [free locks]
        exact (Option.some_ne_none _).symm
      · intro _ single u
        rw [Subsingleton.elim u t, outside]

/-- A run of the protocol is sound throughout. -/
theorem sound_of_run (disciplined : m.Disciplined Tid) {shared : S}
    {actions : List (Action Op Tid)} {finish : State S Op Tid}
    (runs : m.protocol.run (.init shared) actions = some finish) : Sound m finish :=
  m.protocol.run_invariant (Sound m)
    (fun sound stepped => sound.step disciplined (protocol_step stepped)) (.init shared) runs

end Preserved

/-! ## Waiting is atomic -/

section Atomic

variable (m : Monitor S Op)

/-- The operations, and waits that a thread takes in one step once they are over. -/
def atomic (Tid : Type w) : Machine S (Op ⊕ Tid) where
  step
    | shared, .inl op => m.operations.step shared op
    | shared, .inr _ =>
        if m.callable shared = true ∧ m.released shared = true then some shared else none

/-- What an action of the protocol does to the state: an operation when it is
performed, a wait when its test succeeds. -/
def linear (s : State S Op Tid) : Action Op Tid → Option (Op ⊕ Tid)
  | .test t => if m.released s.shared then some (.inr t) else none
  | .finish =>
      match s.holder with
      | some (.operator op) => some (.inl op)
      | _ => none
  | .operate op => some (.inl op)
  | .act _ op => some (.inl op)
  | _ => none

variable {m}

/-- An operation of the monitor is one of the atomic machine. -/
theorem atomic_perform {s after : State S Op Tid} {op : Op}
    (performed : m.perform s op = some after) :
    (m.atomic Tid).run s.shared [.inl op] = some after.shared := by
  obtain ⟨shared, stepped, rfl⟩ := perform_eq_some m performed
  rw [Machine.run_cons, atomic, stepped]
  rfl

variable [DecidableEq Tid]

/-- A run of the protocol is a run in which every wait is atomic. -/
theorem run_atomic (disciplined : m.Disciplined Tid) {shared : S}
    {actions : List (Action Op Tid)} {finish : State S Op Tid}
    (runs : m.protocol.run (.init shared) actions = some finish) :
    (m.atomic Tid).run shared (m.protocol.image m.linear (.init shared) actions) =
      some finish.shared := by
  have simulates : ∀ {s action next}, Sound m s → m.protocol.step s action = some next →
      (m.atomic Tid).run s.shared (m.linear s action).toList = some next.shared := ?_
  · exact m.protocol.run_image m.linear (Sound m)
      (fun sound stepped => sound.step disciplined (protocol_step stepped)) simulates
      (.init shared) runs
  intro s action next sound stepped
  cases protocol_step stepped with
  | released t testing released =>
      have inside : s.phase t ≠ .outside := by
        rw [testing]
        decide
      have waited : (m.atomic Tid).step s.shared (.inr t) = some s.shared :=
        if_pos ⟨sound.called t inside, released⟩
      rw [linear, if_pos released, Option.toList_some, Machine.run_cons, waited]
      rfl
  | unreleased t testing unreleased =>
      rw [linear, unreleased]
      rfl
  | finish op after holds performed =>
      rw [linear, holds]
      change (m.atomic Tid).run s.shared [.inl op] = some after.shared
      exact atomic_perform performed
  | operate op after other unlocked performed => exact atomic_perform performed
  | act t op after owned outside free performed => exact atomic_perform performed
  | _ => rfl

/-- Once the condition holds, a thread that finds the lock free, or has it, returns
by itself and changes nothing. -/
theorem returns_of_released {s : State S Op Tid} (sound : Sound m s) {t : Tid}
    (inside : s.phase t ≠ .outside) (released : m.released s.shared = true)
    (free : s.holder = none ∨ s.holder = some (.waiter t)) :
    m.protocol.run s [.test t] = some { s.moved t .outside with holder := none } ∨
      m.protocol.run s [.acquire t, .test t] =
        some { s.moved t .outside with holder := none } := by
  have notWaiting : ¬(s.phase t = .blocking ∨ s.phase t = .parked) := by
    intro waiting
    rw [sound.waits t waiting] at released
    cases released
  rw [not_or] at notWaiting
  cases phase : s.phase t with
  | outside => exact absurd phase inside
  | acquiring =>
      right
      have unheld : s.holder = none := by
        refine free.resolve_right fun mine => ?_
        have held := (sound.holds t).mpr mine
        rw [phase] at held
        revert held
        decide
      have acquired : m.protocol.step s (.acquire t) =
          some { s.moved t .testing with holder := some (.waiter t) } := if_pos ⟨phase, unheld⟩
      rw [Machine.run_cons, acquired, Option.bind_some, Machine.run_cons]
      have tested : m.protocol.step { s.moved t .testing with holder := some (.waiter t) }
          (.test t) = some { s.moved t .outside with holder := none } := by
        change (if Function.update s.phase t .testing t = .testing then _ else _) = _
        rw [Function.update_self, if_pos rfl]
        change some (if m.released s.shared = true then _ else _) = _
        rw [if_pos released]
        simp only [State.moved, Function.update_idem]
      rw [tested]
      rfl
  | testing =>
      left
      have tested : m.protocol.step s (.test t) =
          some { s.moved t .outside with holder := none } := by
        change (if s.phase t = .testing then _ else _) = _
        rw [if_pos phase, if_pos released]
      rw [Machine.run_cons, tested]
      rfl
  | blocking => exact absurd phase notWaiting.1
  | parked => exact absurd phase notWaiting.2

end Atomic

end Monitor

end X360Gadget.Std
