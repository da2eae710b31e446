import Mathlib.Data.List.Basic
import Mathlib.Data.List.Induction

/-!
# Controller state

`InputState` is the full surface of one controller and the builder methods each
set one part of it. `get_applyAll` says what a chain of them leaves in every
control: the argument of the last call that set it, or what was there before.
-/

namespace X360Gadget

/-- Every digital surface of a controller. -/
inductive Button where
  | a
  | b
  | x
  | y
  | lb
  | rb
  | l3
  | r3
  | start
  | back
  | guide
  | dpadUp
  | dpadDown
  | dpadLeft
  | dpadRight
deriving DecidableEq, Repr

/-- Full input state of one controller slot. -/
@[ext] structure InputState where
  a : Bool
  b : Bool
  x : Bool
  y : Bool
  lb : Bool
  rb : Bool
  l3 : Bool
  r3 : Bool
  start : Bool
  back : Bool
  guide : Bool
  dpadUp : Bool
  dpadDown : Bool
  dpadLeft : Bool
  dpadRight : Bool
  leftTrigger : UInt8
  rightTrigger : UInt8
  leftStickX : Int16
  leftStickY : Int16
  rightStickX : Int16
  rightStickY : Int16
deriving DecidableEq, Repr

namespace InputState

/-- Nothing pressed and everything centred. -/
def default : InputState where
  a := false
  b := false
  x := false
  y := false
  lb := false
  rb := false
  l3 := false
  r3 := false
  start := false
  back := false
  guide := false
  dpadUp := false
  dpadDown := false
  dpadLeft := false
  dpadRight := false
  leftTrigger := 0
  rightTrigger := 0
  leftStickX := 0
  leftStickY := 0
  rightStickX := 0
  rightStickY := 0

/-- Set a digital button. -/
def withButton (self : InputState) (button : Button) (pressed : Bool) : InputState :=
  match button with
  | .a => { self with a := pressed }
  | .b => { self with b := pressed }
  | .x => { self with x := pressed }
  | .y => { self with y := pressed }
  | .lb => { self with lb := pressed }
  | .rb => { self with rb := pressed }
  | .l3 => { self with l3 := pressed }
  | .r3 => { self with r3 := pressed }
  | .start => { self with start := pressed }
  | .back => { self with back := pressed }
  | .guide => { self with guide := pressed }
  | .dpadUp => { self with dpadUp := pressed }
  | .dpadDown => { self with dpadDown := pressed }
  | .dpadLeft => { self with dpadLeft := pressed }
  | .dpadRight => { self with dpadRight := pressed }

/-- Set the left trigger. -/
def withLeftTrigger (self : InputState) (v : UInt8) : InputState :=
  { self with leftTrigger := v }

/-- Set the right trigger. -/
def withRightTrigger (self : InputState) (v : UInt8) : InputState :=
  { self with rightTrigger := v }

/-- Set both axes of the left stick. -/
def withLeftStick (self : InputState) (x y : Int16) : InputState :=
  { self with leftStickX := x, leftStickY := y }

/-- Set both axes of the right stick. -/
def withRightStick (self : InputState) (x y : Int16) : InputState :=
  { self with rightStickX := x, rightStickY := y }

end InputState

/-- One controller slot of the receiver. -/
structure ControllerSlot where
  index : UInt8
  state : InputState
deriving DecidableEq, Repr

namespace ControllerSlot

/-- A slot in its default state. -/
def new (index : UInt8) : ControllerSlot where
  index
  state := InputState.default

/-- Replace the current input state. -/
def setState (self : ControllerSlot) (state : InputState) : ControllerSlot :=
  { self with state }

@[simp] theorem index_new (index : UInt8) : (new index).index = index := rfl

@[simp] theorem state_new (index : UInt8) : (new index).state = InputState.default := rfl

@[simp] theorem index_setState (self : ControllerSlot) (state : InputState) :
    (self.setState state).index = self.index := rfl

@[simp] theorem state_setState (self : ControllerSlot) (state : InputState) :
    (self.setState state).state = state := rfl

end ControllerSlot

/-! ## Chains of builder calls -/

/-- The parts of a controller that can be set on their own. -/
inductive Control where
  | button (button : Button)
  | leftTrigger
  | rightTrigger
  | leftStickX
  | leftStickY
  | rightStickX
  | rightStickY
deriving DecidableEq, Repr

/-- What a control reads. -/
abbrev Control.Value : Control → Type
  | .button _ => Bool
  | .leftTrigger => UInt8
  | .rightTrigger => UInt8
  | .leftStickX => Int16
  | .leftStickY => Int16
  | .rightStickX => Int16
  | .rightStickY => Int16

/-- The state of a button. -/
def InputState.pressed (self : InputState) : Button → Bool
  | .a => self.a
  | .b => self.b
  | .x => self.x
  | .y => self.y
  | .lb => self.lb
  | .rb => self.rb
  | .l3 => self.l3
  | .r3 => self.r3
  | .start => self.start
  | .back => self.back
  | .guide => self.guide
  | .dpadUp => self.dpadUp
  | .dpadDown => self.dpadDown
  | .dpadLeft => self.dpadLeft
  | .dpadRight => self.dpadRight

/-- The state of a control. -/
def InputState.get (self : InputState) : (control : Control) → control.Value
  | .button button => self.pressed button
  | .leftTrigger => self.leftTrigger
  | .rightTrigger => self.rightTrigger
  | .leftStickX => self.leftStickX
  | .leftStickY => self.leftStickY
  | .rightStickX => self.rightStickX
  | .rightStickY => self.rightStickY

/-- A call of one of the builder methods. -/
inductive BuilderCall where
  | withButton (button : Button) (pressed : Bool)
  | withLeftTrigger (v : UInt8)
  | withRightTrigger (v : UInt8)
  | withLeftStick (x y : Int16)
  | withRightStick (x y : Int16)
deriving DecidableEq, Repr

namespace BuilderCall

/-- The call made on a state. -/
def apply (call : BuilderCall) (state : InputState) : InputState :=
  match call with
  | .withButton button pressed => state.withButton button pressed
  | .withLeftTrigger v => state.withLeftTrigger v
  | .withRightTrigger v => state.withRightTrigger v
  | .withLeftStick x y => state.withLeftStick x y
  | .withRightStick x y => state.withRightStick x y

/-- The argument the call sets a control to, if it sets it. -/
def sets : BuilderCall → (control : Control) → Option control.Value
  | .withButton button pressed, .button other => if button = other then some pressed else none
  | .withLeftTrigger v, .leftTrigger => some v
  | .withRightTrigger v, .rightTrigger => some v
  | .withLeftStick x _, .leftStickX => some x
  | .withLeftStick _ y, .leftStickY => some y
  | .withRightStick x _, .rightStickX => some x
  | .withRightStick _ y, .rightStickY => some y
  | _, _ => none

/-- The calls made in order. -/
def applyAll (calls : List BuilderCall) (state : InputState) : InputState :=
  calls.foldl (fun state call => call.apply state) state

/-- The argument of the last call that set a control. -/
def lastSet (calls : List BuilderCall) (control : Control) : Option control.Value :=
  (calls.filterMap fun call => call.sets control).getLast?

/-- A call changes exactly the controls it sets. -/
theorem get_apply (call : BuilderCall) (state : InputState) (control : Control) :
    (call.apply state).get control = (call.sets control).getD (state.get control) := by
  cases call with
  | withButton button pressed =>
      cases control with
      | button other => cases button <;> cases other <;> rfl
      | _ => cases button <;> rfl
  | _ => cases control <;> rfl

/-- After a chain of calls each control holds what the last one set it to. -/
theorem get_applyAll (calls : List BuilderCall) (state : InputState) (control : Control) :
    (applyAll calls state).get control = (lastSet calls control).getD (state.get control) := by
  induction calls using List.reverseRecOn with
  | nil => rfl
  | append_singleton calls call ih =>
      have extended : applyAll (calls ++ [call]) state = call.apply (applyAll calls state) := by
        rw [applyAll, List.foldl_concat]
        rfl
      rw [extended, get_apply, ih, lastSet, lastSet, List.filterMap_append]
      cases set : call.sets control <;> simp [set]

end BuilderCall

end X360Gadget
