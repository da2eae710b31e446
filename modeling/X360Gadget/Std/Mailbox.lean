import Mathlib.Data.List.Induction
import Mathlib.Tactic.Push
import Mathlib.Tactic.ByContra

/-!
# Keyed mailboxes that keep the newest value

A mailbox holds at most one value for each key. Posting replaces what is there
and taking empties it. `Mailbox.observe_eq_some_iff` says, for any stream of
actions seen through a projection to mailbox operations, that a key holds
exactly the value posted last since the key was last taken.
-/

namespace X360Gadget.Std

universe u v w

/-- An operation on the mailbox cell named by its key. -/
inductive MailboxOp (Key : Type u) (Value : Type v) where
  | post (key : Key) (value : Value)
  | take (key : Key)

/-- The cell an operation writes. -/
def MailboxOp.key {Key : Type u} {Value : Type v} : MailboxOp Key Value → Key
  | .post key _ => key
  | .take key => key

/-- At most one waiting value for each key. -/
def Mailbox (Key : Type u) (Value : Type v) := Key → Option Value

namespace Mailbox

variable {Key : Type u} {Value : Type v}

/-- The mailbox with every cell empty. -/
def empty : Mailbox Key Value := fun _ => none

@[simp] theorem empty_apply (key : Key) : (empty : Mailbox Key Value) key = none := rfl

/-! ## Which post a take receives -/

section Delivery

variable {Action : Type w} (op : Action → Option (MailboxOp Key Value))

/-- The action is no operation on `key`. -/
def Avoids (key : Key) (action : Action) : Prop :=
  ∀ operation, op action = some operation → operation.key ≠ key

/-- Position `posted` posts `value` to `key`. -/
def PostsAt (actions : List Action) (key : Key) (value : Value) (posted : Nat) : Prop :=
  ∃ action, actions[posted]? = some action ∧ op action = some (.post key value)

/-- Position `taken` takes `key`. -/
def TakesAt (actions : List Action) (key : Key) (taken : Nat) : Prop :=
  ∃ action, actions[taken]? = some action ∧ op action = some (.take key)

/-- The post at `posted` reaches the take at `taken`: nothing between them
touches `key`. -/
structure Delivers (actions : List Action) (key : Key) (value : Value) (posted taken : Nat) :
    Prop where
  posts : PostsAt op actions key value posted
  takes : TakesAt op actions key taken
  ordered : posted < taken
  untouched : ∀ middle action, posted < middle → middle < taken →
    actions[middle]? = some action → Avoids op key action

variable {op} {actions : List Action} {key : Key} {value : Value}

/-- No post reaches two takes. -/
theorem Delivers.taken_unique {posted first second : Nat} {other : Value}
    (atFirst : Delivers op actions key value posted first)
    (atSecond : Delivers op actions key other posted second) : first = second := by
  rcases Nat.lt_trichotomy first second with before | same | after
  · obtain ⟨action, found, takes⟩ := atFirst.takes
    exact absurd rfl (atSecond.untouched first action atFirst.ordered before found _ takes)
  · exact same
  · obtain ⟨action, found, takes⟩ := atSecond.takes
    exact absurd rfl (atFirst.untouched second action atSecond.ordered after found _ takes)

/-- A post that does not reach the next take of its key was superseded. -/
theorem delivers_or_superseded {posted taken : Nat} (posts : PostsAt op actions key value posted)
    (takes : TakesAt op actions key taken) (ordered : posted < taken)
    (next : ∀ middle, posted < middle → middle < taken → ¬TakesAt op actions key middle) :
    Delivers op actions key value posted taken ∨
      ∃ newer other, posted < newer ∧ newer < taken ∧ PostsAt op actions key other newer := by
  by_cases superseded : ∃ newer other, posted < newer ∧ newer < taken ∧
      PostsAt op actions key other newer
  · exact .inr superseded
  · refine .inl ⟨posts, takes, ordered, ?_⟩
    intro middle action after before found operation projected sameKey
    cases operation with
    | post other newer =>
        obtain rfl : other = key := sameKey
        exact superseded ⟨middle, newer, after, before, action, found, projected⟩
    | take other =>
        obtain rfl : other = key := sameKey
        exact next middle after before ⟨action, found, projected⟩

end Delivery

/-! ## Contents -/

variable [DecidableEq Key]

/-- Replace one cell. -/
def write (box : Mailbox Key Value) (key : Key) (content : Option Value) : Mailbox Key Value :=
  fun other => if other = key then content else box other

/-- The effect of one operation. -/
def apply (box : Mailbox Key Value) : MailboxOp Key Value → Mailbox Key Value
  | .post key value => box.write key (some value)
  | .take key => box.write key none

@[simp] theorem write_same (box : Mailbox Key Value) (key : Key) (content : Option Value) :
    box.write key content key = content := by
  simp [write]

/-- Writing one cell leaves the others alone. -/
theorem write_other (box : Mailbox Key Value) {key other : Key} (content : Option Value)
    (different : other ≠ key) : box.write key content other = box other := by
  simp [write, different]

/-- An operation on another cell leaves this one alone. -/
theorem apply_other (box : Mailbox Key Value) {op : MailboxOp Key Value} {key : Key}
    (different : op.key ≠ key) : box.apply op key = box key := by
  cases op with
  | post other value => exact write_other box _ (Ne.symm different)
  | take other => exact write_other box _ (Ne.symm different)

section Observe

variable {Action : Type w} (op : Action → Option (MailboxOp Key Value))

/-- The effect of an action that may or may not be a mailbox operation. -/
def observeOne (box : Mailbox Key Value) (action : Action) : Mailbox Key Value :=
  match op action with
  | some operation => box.apply operation
  | none => box

/-- The mailbox after a stream of actions. -/
def observe (box : Mailbox Key Value) (actions : List Action) : Mailbox Key Value :=
  actions.foldl (observeOne op) box

@[simp] theorem observe_nil (box : Mailbox Key Value) : observe op box [] = box := rfl

/-- One more action is observed by one operation more. -/
theorem observe_concat (box : Mailbox Key Value) (actions : List Action) (action : Action) :
    observe op box (actions ++ [action]) = observeOne op (observe op box actions) action := by
  simp [observe]

/-- An action that avoids a cell leaves it alone. -/
theorem observeOne_avoids (box : Mailbox Key Value) {key : Key} {action : Action}
    (avoids : Avoids op key action) : observeOne op box action key = box key := by
  unfold observeOne
  cases projected : op action with
  | none => rfl
  | some operation => exact apply_other box (avoids operation projected)

/-- A cell that no action in the stream touches keeps its content. -/
theorem observe_avoids (box : Mailbox Key Value) {key : Key} {actions : List Action}
    (avoids : ∀ action ∈ actions, Avoids op key action) :
    observe op box actions key = box key := by
  induction actions generalizing box with
  | nil => rfl
  | cons action rest ih =>
      have tail := ih (observeOne op box action) fun other member =>
        avoids other (List.mem_cons_of_mem action member)
      exact tail.trans (observeOne_avoids op box (avoids action List.mem_cons_self))

/-- From the empty mailbox, a key holds a value exactly when that value was
posted to it and no later action touched the key. -/
theorem observe_eq_some_iff {key : Key} {value : Value} {actions : List Action} :
    observe op empty actions key = some value ↔
      ∃ earlier action later, actions = earlier ++ action :: later ∧
        op action = some (.post key value) ∧ ∀ other ∈ later, Avoids op key other := by
  constructor
  · intro content
    induction actions using List.reverseRecOn with
    | nil => simp at content
    | append_singleton actions last ih =>
        rw [observe_concat] at content
        by_cases avoids : Avoids op key last
        · rw [observeOne_avoids op _ avoids] at content
          obtain ⟨earlier, action, later, rfl, posted, untouched⟩ := ih content
          refine ⟨earlier, action, later ++ [last], by simp, posted, ?_⟩
          intro other member
          rcases List.mem_append.mp member with inLater | isLast
          · exact untouched other inLater
          · rw [List.mem_singleton.mp isLast]
            exact avoids
        · -- The last action touches the key, so it must be the post itself.
          simp only [Avoids, not_forall, not_not] at avoids
          obtain ⟨operation, projected, sameKey⟩ := avoids
          refine ⟨actions, last, [], rfl, ?_, by simp⟩
          cases operation with
          | post other posted =>
              obtain rfl : other = key := sameKey
              simp only [observeOne, projected, apply, write_same, Option.some.injEq] at content
              rw [projected, content]
          | take other =>
              obtain rfl : other = key := sameKey
              simp [observeOne, projected, apply] at content
  · rintro ⟨earlier, action, later, rfl, posted, untouched⟩
    have split : earlier ++ action :: later = (earlier ++ [action]) ++ later := by simp
    rw [split, observe, List.foldl_append, ← observe, observe_avoids op _ untouched,
      ← observe, observe_concat]
    simp [observeOne, posted, apply]

variable {op} {actions : List Action} {key : Key} {value : Value}

/-- A take finds a value exactly when some post of that value reaches it. -/
theorem observe_take_iff {taken : Nat} (takes : TakesAt op actions key taken) :
    observe op empty (actions.take taken) key = some value ↔
      ∃ posted, Delivers op actions key value posted taken := by
  obtain ⟨last, lastAt, -⟩ := id takes
  have inRange : taken < actions.length := (List.getElem?_eq_some_iff.mp lastAt).1
  rw [observe_eq_some_iff]
  constructor
  · rintro ⟨earlier, action, later, shape, posts, avoids⟩
    have size : earlier.length + later.length + 1 = taken := by
      have lengths := congrArg List.length shape
      simp only [List.length_take, List.length_append, List.length_cons] at lengths
      omega
    have within : ∀ middle, middle < taken →
        actions[middle]? = (earlier ++ action :: later)[middle]? := by
      intro middle before
      rw [← shape, List.getElem?_take_of_lt before]
    refine ⟨earlier.length, ⟨action, ?_, posts⟩, takes, by omega, ?_⟩
    · rw [within _ (by omega)]
      simp
    · intro middle other after before found
      rw [within middle before, List.getElem?_append_right (Nat.le_of_lt after)] at found
      obtain ⟨offset, gap⟩ : ∃ offset, middle - earlier.length = offset + 1 :=
        ⟨middle - earlier.length - 1, by omega⟩
      rw [gap, List.getElem?_cons_succ] at found
      exact avoids other (List.mem_of_getElem? found)
  · rintro ⟨posted, ⟨action, found, posts⟩, -, ordered, untouched⟩
    refine ⟨actions.take posted, action, (actions.take taken).drop (posted + 1), ?_, posts, ?_⟩
    · have atPosted : (actions.take taken)[posted]? = some action := by
        rw [List.getElem?_take_of_lt ordered, found]
      obtain ⟨short, atIndex⟩ := List.getElem?_eq_some_iff.mp atPosted
      have prefixes : actions.take posted = (actions.take taken).take posted := by
        rw [List.take_take, Nat.min_eq_left (Nat.le_of_lt ordered)]
      rw [prefixes, ← atIndex, ← List.drop_eq_getElem_cons short, List.take_append_drop]
    · intro other member
      obtain ⟨offset, bound, atOffset⟩ := List.getElem_of_mem member
      refine untouched (posted + 1 + offset) other (by omega) ?_ ?_
      · simp only [List.length_drop, List.length_take] at bound
        omega
      · rw [← atOffset]
        simp only [List.length_drop, List.length_take] at bound
        simp only [List.getElem_drop, List.getElem_take]
        exact List.getElem?_eq_getElem (by omega)

end Observe

end Mailbox

end X360Gadget.Std
