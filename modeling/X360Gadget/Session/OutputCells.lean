import X360Gadget.Session.Transport
import X360Gadget.Transport.OutputPipeline

/-!
# Output reports as cells

Seen from outside, a transport holds at most one report of each kind for each
slot: an arrival fills its cell, a poll empties it. `OutputCells` says that a
transport's polls read such cells, and two transports whose cells agree return
the same at every poll, however they keep them.
-/

namespace X360Gadget.Session

open X360Gadget.Protocol X360Gadget.Std X360Gadget.Transport

variable {T E : Type}

/-- The poll of a kind. -/
def Transport.poll (transport : Transport T E) :
    (kind : ReportKind) → UInt8 → Method T E (Option kind.Report)
  | .rumble => transport.pollRumble
  | .led => transport.pollLed

/-- The call a poll of a kind is recorded as. -/
def TransportCall.poll : ReportKind → UInt8 → TransportCall
  | .rumble => .pollRumble
  | .led => .pollLed

/-- A recorded poll is the poll with its call logged. -/
theorem poll_recording (transport : Transport T E) (kind : ReportKind) (slot : UInt8) :
    (recording transport).poll kind slot = record (.poll kind slot) (transport.poll kind slot) := by
  cases kind <;> rfl

/-- What waits for a poll of each kind and slot. -/
abbrev Cells (T : Type) := (kind : ReportKind) → T → UInt8 → Option kind.Report

/-- A poll returns and empties its own cell. Outside the four slots it panics and
leaves the cells alone. -/
structure OutputCells (transport : Transport T E) (cell : Cells T) : Prop where
  returned : ∀ kind slot self, (transport.poll kind slot).result self =
    if slot.toNat < 4 then some (.ok (cell kind self slot)) else none
  taken : ∀ kind slot self other index, index.toNat < 4 →
    cell other ((transport.poll kind slot).stateAfter self) index =
      if kind = other ∧ index = slot then none else cell other self index
  provided : transport.pollOutput = pollOutputOf transport.pollRumble transport.pollLed

/-- The report `poll_output` finds: rumble first. -/
def nextOutput (cell : Cells T) (self : T) (slot : UInt8) : Option OutputReport :=
  match cell .rumble self slot with
  | some r => some (.rumble r)
  | none => (cell .led self slot).map .led

namespace OutputCells

variable {transport : Transport T E} {cell : Cells T} {slot : UInt8} {self : T}

/-- `poll_output` polls for rumble and then, if there was none, for LED. -/
theorem pollOutput_eq (cells : OutputCells transport cell) (slot : UInt8) :
    transport.pollOutput slot = (transport.poll .rumble slot).andThen fun
      | some r => .returns (some (.rumble r))
      | none => (transport.poll .led slot).andThen fun
          | some l => .returns (some (.led l))
          | none => .returns none := by
  rw [cells.provided]
  rfl

/-- `poll_output` returns the next report. -/
theorem returned_output (cells : OutputCells transport cell) :
    (transport.pollOutput slot).result self =
      if slot.toNat < 4 then some (.ok (nextOutput cell self slot)) else none := by
  have rumble := cells.returned .rumble slot self
  have led := cells.returned .led slot ((transport.poll .rumble slot).stateAfter self)
  rw [cells.pollOutput_eq]
  by_cases inRange : slot.toNat < 4
  · have kept := cells.taken .rumble slot self .led slot inRange
    rw [if_neg fun same => ReportKind.noConfusion same.1] at kept
    rw [if_pos inRange] at rumble led ⊢
    rw [kept] at led
    rw [Method.result_andThen_of_ok rumble, nextOutput]
    cases cell .rumble self slot with
    | some r => rfl
    | none =>
        dsimp only
        rw [Method.result_andThen_of_ok led]
        cases cell .led self slot <;> rfl
  · rw [if_neg inRange] at rumble ⊢
    exact Method.result_andThen_of_none rumble

/-- `poll_output` empties the cell of what it returns and no other. -/
theorem taken_output (cells : OutputCells transport cell) {kind : ReportKind} {index : UInt8}
    (inRange : index.toNat < 4) : cell kind ((transport.pollOutput slot).stateAfter self) index =
      if index = slot ∧ (kind = .rumble ∨ cell .rumble self slot = none) then none
      else cell kind self index := by
  have rumble := cells.returned .rumble slot self
  have led := cells.returned .led slot ((transport.poll .rumble slot).stateAfter self)
  have afterRumble := cells.taken .rumble slot self kind index inRange
  have afterLed := cells.taken .led slot ((transport.poll .rumble slot).stateAfter self) kind
    index inRange
  rw [cells.pollOutput_eq]
  by_cases valid : slot.toNat < 4
  · rw [if_pos valid] at rumble led
    rw [Method.stateAfter_andThen_of_ok rumble]
    cases waiting : cell .rumble self slot with
    | some r =>
        rw [Method.stateAfter_returns, afterRumble]
        cases kind <;> simp
    | none =>
        dsimp only
        rw [Method.stateAfter_andThen_of_ok led]
        split <;> rw [Method.stateAfter_returns, afterLed, afterRumble] <;> cases kind <;> simp
  · have other : index ≠ slot := fun same => valid (same ▸ inRange)
    rw [if_neg valid] at rumble
    have panicked : ∀ value, (transport.poll .rumble slot).result self ≠ some (.ok value) := by
      intro value returned
      cases rumble.symm.trans returned
    rw [Method.stateAfter_andThen_of_not_ok panicked, afterRumble,
      if_neg fun same => other same.2, if_neg fun same => other same.1]

end OutputCells

/-! ## Sequences of arrivals and polls -/

/-- A report arrives, or a poll is made. -/
inductive OutputStep where
  | arrive (slot : UInt8) (report : OutputReport)
  | poll (kind : ReportKind) (slot : UInt8)
  | pollOutput (slot : UInt8)
deriving DecidableEq, Repr

/-- The slot a step is about. -/
def OutputStep.slot : OutputStep → UInt8
  | .arrive slot _ => slot
  | .poll _ slot => slot
  | .pollOutput slot => slot

/-- What a poll returned, if it did not panic. -/
inductive Returned (E : Type) where
  | poll (kind : ReportKind) (result : Option (Except E (Option kind.Report)))
  | output (result : Option (Except E (Option OutputReport)))

section Results

variable (transport : Transport T E) (arrive : T → UInt8 → OutputReport → T)

/-- The transport after a step. -/
def stepOutput (self : T) : OutputStep → T
  | .arrive slot report => arrive self slot report
  | .poll kind slot => (transport.poll kind slot).stateAfter self
  | .pollOutput slot => (transport.pollOutput slot).stateAfter self

/-- What a step returns; arrivals return nothing. -/
def returnedBy (self : T) : OutputStep → Option (Returned E)
  | .arrive _ _ => none
  | .poll kind slot => some (.poll kind ((transport.poll kind slot).result self))
  | .pollOutput slot => some (.output ((transport.pollOutput slot).result self))

/-- The results of all polls of a sequence, in order. -/
def results (self : T) : List OutputStep → List (Returned E)
  | [] => []
  | step :: rest =>
      (returnedBy transport self step).toList ++
        results (stepOutput transport arrive self step) rest

end Results

/-- An arrival fills its cell and no other. -/
def Arrives (cell : Cells T) (arrive : T → UInt8 → OutputReport → T) : Prop :=
  ∀ self slot report kind index, slot.toNat < 4 → index.toNat < 4 →
    cell kind (arrive self slot report) index =
      if index = slot then (kind.only? report).or (cell kind self index)
      else cell kind self index

section Agreement

variable {T' : Type} {transport : Transport T E} {transport' : Transport T' E} {cell : Cells T}
  {cell' : Cells T'} {arrive : T → UInt8 → OutputReport → T}
  {arrive' : T' → UInt8 → OutputReport → T'}

/-- The two transports hold the same reports. -/
def CellsAgree (cell : Cells T) (cell' : Cells T') (self : T) (self' : T') : Prop :=
  ∀ kind slot, slot.toNat < 4 → cell kind self slot = cell' kind self' slot

/-- Agreeing transports find the same next report. -/
theorem CellsAgree.nextOutput_eq {self : T} {self' : T'} {slot : UInt8}
    (agree : CellsAgree cell cell' self self') (inRange : slot.toNat < 4) :
    nextOutput cell self slot = nextOutput cell' self' slot := by
  rw [nextOutput, nextOutput, agree .rumble slot inRange, agree .led slot inRange]

/-- A step of a slot in range keeps the agreement. -/
theorem CellsAgree.step {self : T} {self' : T'} {step : OutputStep}
    (agree : CellsAgree cell cell' self self') (cells : OutputCells transport cell)
    (cells' : OutputCells transport' cell') (arrives : Arrives cell arrive)
    (arrives' : Arrives cell' arrive') (inRange : step.slot.toNat < 4) :
    CellsAgree cell cell' (stepOutput transport arrive self step)
      (stepOutput transport' arrive' self' step) := by
  intro kind index bound
  cases step with
  | arrive slot report =>
      rw [stepOutput, stepOutput, arrives self slot report kind index inRange bound,
        arrives' self' slot report kind index inRange bound, agree kind index bound]
  | poll polled slot =>
      rw [stepOutput, stepOutput, cells.taken polled slot self kind index bound,
        cells'.taken polled slot self' kind index bound, agree kind index bound]
  | pollOutput slot =>
      have same : cell .rumble self slot = cell' .rumble self' slot := agree .rumble slot inRange
      rw [stepOutput, stepOutput, cells.taken_output bound, cells'.taken_output bound, same,
        agree kind index bound]

/-- Agreeing transports return the same at every poll of any sequence. -/
theorem results_eq {self : T} {self' : T'} {steps : List OutputStep}
    (cells : OutputCells transport cell) (cells' : OutputCells transport' cell')
    (arrives : Arrives cell arrive) (arrives' : Arrives cell' arrive')
    (agree : CellsAgree cell cell' self self') (inRange : ∀ step ∈ steps, step.slot.toNat < 4) :
    results transport arrive self steps = results transport' arrive' self' steps := by
  induction steps generalizing self self' with
  | nil => rfl
  | cons step rest ih =>
      have here : step.slot.toNat < 4 := inRange step List.mem_cons_self
      have later : ∀ next ∈ rest, next.slot.toNat < 4 :=
        fun next member => inRange next (List.mem_cons_of_mem step member)
      have returned : returnedBy transport self step = returnedBy transport' self' step := by
        cases step with
        | arrive slot report => rfl
        | poll kind slot =>
            have same := agree kind slot here
            rw [returnedBy, returnedBy, cells.returned, cells'.returned, same]
        | pollOutput slot =>
            have same : nextOutput cell self slot = nextOutput cell' self' slot :=
              agree.nextOutput_eq here
            rw [returnedBy, returnedBy, cells.returned_output, cells'.returned_output, same]
      rw [results, results, returned,
        ih (agree.step cells cells' arrives arrives' here) later]

end Agreement

end X360Gadget.Session
