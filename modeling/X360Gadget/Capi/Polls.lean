import X360Gadget.Capi.Calls
import X360Gadget.Session.OutputPath

/-!
# From the host's packets to the codes of the C interface

A client calls `x360_send`, `x360_poll_rumble` and `x360_poll_led` on an open handle
while the threads of its gadget take steps. `rumbleCodes_of_run` and `ledCodes_of_run`
account for what the polls return in terms of the bytes that the readers received.
-/

namespace X360Gadget.Capi

open X360Gadget.Descriptors X360Gadget.Kernel X360Gadget.Protocol X360Gadget.Session
open X360Gadget.Std X360Gadget.Transport WirelessReceiver

variable {K : Type}

/-! ## Clients -/

/-- A call on the handle, or a step of a thread between two calls. -/
inductive ClientAction where
  | x360Send (slot : Int32) (data : Option (List UInt8))
  | x360PollRumble (slot : Int32) (leftOut rightOut : Bool)
  | x360PollLed (slot : Int32)
  | thread (action : GadgetAction)
deriving DecidableEq

/-- A call on the handle; a panic ends the process. -/
def called {Code : Type}
    (call : Method (Option (WirelessReceiver (RawGadgetTransport K))) Empty Code)
    (receiver : WirelessReceiver (RawGadgetTransport K)) :
    Option (WirelessReceiver (RawGadgetTransport K)) :=
  if (call.result (some receiver)).isSome then call.stateAfter (some receiver) else none

/-- The receiver behind a handle, its client and its threads. -/
def client (os : Os K) : Machine (WirelessReceiver (RawGadgetTransport K)) ClientAction where
  step receiver
    | .x360Send slot data => called (x360Send (hardware os) slot data) receiver
    | .x360PollRumble slot leftOut rightOut =>
        called (x360PollRumble (hardware os) slot leftOut rightOut) receiver
    | .x360PollLed slot => called (x360PollLed (hardware os) slot) receiver
    | .thread action =>
        if IsBackground action then
          ((receiver.transport.machine os).step receiver.transport.gadget action).map fun gadget =>
            withGadget receiver gadget
        else none

/-! ## Packets and codes -/

/-- The motor strengths of a rumble packet. -/
def motorsIn : List UInt8 → Option (UInt8 × UInt8)
  | 0x00 :: 0x08 :: _ :: left :: right :: _ :: _ :: _ :: _ => some (left, right)
  | _ => none

/-- The animation code of an LED packet. -/
def animationIn : List UInt8 → Option Int32
  | 0x01 :: 0x03 :: id :: _ => if id ≤ 0x0D then some (Int32.ofNat id.toNat) else none
  | _ => none

/-- What a step receives for a slot, read from the packet. -/
def receivedAs {V : Type} (read : List UInt8 → Option V) (slot : UInt8) :
    ClientAction → Option V
  | .thread action => (received slot action).bind read
  | _ => none

section Codes

variable (os : Os K) (slot : UInt8) (receiver : WirelessReceiver (RawGadgetTransport K))

/-- The motors that `x360_poll_rumble` writes when it returns 1. -/
def motorsOut : ClientAction → Option (UInt8 × UInt8)
  | .x360PollRumble index leftOut rightOut =>
      if slot = asU8 index then
        match (x360PollRumble (hardware os) index leftOut rightOut).result (some receiver) with
        | some (.ok (code, motors)) =>
            if code = 1 then motors.map fun r => (r.leftMotor, r.rightMotor) else none
        | _ => none
      else none
  | _ => none

/-- What `x360_poll_led` returns when that is not negative. -/
def animationOut : ClientAction → Option Int32
  | .x360PollLed index =>
      if slot = asU8 index then
        match (x360PollLed (hardware os) index).result (some receiver) with
        | some (.ok code) => if 0 ≤ code then some code else none
        | _ => none
      else none
  | _ => none

end Codes

/-! ### Packets as the parsers read them -/

/-- The motors of a report. -/
def motors (r : RumbleReport) : UInt8 × UInt8 := (r.leftMotor, r.rightMotor)

/-- The code of an animation. -/
def animationCode (l : LedReport) : Int32 := Int32.ofNat l.animation.discriminant.toNat

/-- A packet is a rumble packet of the motors that it carries. -/
theorem isRumble_iff_motorsIn {packet : List UInt8} {report : RumbleReport} :
    IsRumble packet report ↔ motorsIn packet = some (motors report) := by
  constructor
  · rintro ⟨long, type, length, left, right⟩
    rcases packet with _ | ⟨b0, _ | ⟨b1, _ | ⟨b2, _ | ⟨b3, _ |
      ⟨b4, _ | ⟨b5, _ | ⟨b6, _ | ⟨b7, rest⟩⟩⟩⟩⟩⟩⟩⟩
    case cons.cons.cons.cons.cons.cons.cons.cons =>
      cases Option.some.inj type
      cases Option.some.inj length
      cases Option.some.inj left
      cases Option.some.inj right
      rfl
    all_goals
      simp only [List.length_cons, List.length_nil] at long
      omega
  · intro read
    unfold motorsIn at read
    split at read
    · cases Option.some.inj read
      exact ⟨by simp only [List.length_cons]; omega, rfl, rfl, rfl, rfl⟩
    · cases read

/-- The motors of the rumble report of a packet are those that the packet carries. -/
theorem parsedAs_rumble (packet : List UInt8) :
    (parsedAs .rumble packet).map motors = motorsIn packet := by
  apply Option.ext
  rintro ⟨left, right⟩
  rw [← show motors ⟨left, right⟩ = (left, right) from rfl, ← isRumble_iff_motorsIn,
    ← RumbleReport.fromBytes_eq_some_iff, ← OutputReport.fromBytes_eq_rumble_iff]
  constructor
  · intro mapped
    obtain ⟨⟨l, r⟩, parsed, same⟩ := Option.map_eq_some_iff.mp mapped
    cases same
    obtain ⟨output, accepted, isRumble⟩ := Option.bind_eq_some_iff.mp parsed
    rw [accepted, ReportKind.only?_eq_some_iff.mp isRumble]
    rfl
  · intro parsed
    rw [parsedAs, parsed]
    rfl

/-- A packet carries the code of the animation of its LED report. -/
theorem animationIn_eq_some_iff {packet : List UInt8} {code : Int32} :
    animationIn packet = some code ↔
      ∃ report, IsLed packet report ∧ animationCode report = code := by
  constructor
  · intro read
    unfold animationIn at read
    split at read
    · next id rest =>
        rw [Option.ite_none_right_eq_some, Option.some.injEq] at read
        obtain ⟨known, rfl⟩ := read
        obtain ⟨animation, found⟩ := Option.isSome_iff_exists.mp
          (LedAnimation.isSome_fromByte_iff.mpr known)
        rw [LedAnimation.fromByte_eq_some_iff] at found
        subst found
        exact ⟨⟨animation⟩, ⟨by simp only [List.length_cons]; omega, rfl, rfl, rfl⟩, rfl⟩
    · cases read
  · rintro ⟨⟨animation⟩, ⟨long, type, length, identified⟩, rfl⟩
    have known : animation.discriminant ≤ 0x0D := by
      rw [← LedAnimation.isSome_fromByte_iff, LedAnimation.fromByte_eq_some_iff.mpr rfl]
      rfl
    rcases packet with _ | ⟨b0, _ | ⟨b1, _ | ⟨b2, rest⟩⟩⟩
    case cons.cons.cons =>
      cases Option.some.inj type
      cases Option.some.inj length
      cases Option.some.inj identified
      exact if_pos known
    all_goals
      simp only [List.length_cons, List.length_nil] at long
      omega

/-- The code of the LED report of a packet is the one that the packet carries. -/
theorem parsedAs_led (packet : List UInt8) :
    (parsedAs .led packet).map animationCode = animationIn packet := by
  apply Option.ext
  intro code
  rw [animationIn_eq_some_iff]
  constructor
  · intro mapped
    obtain ⟨l, parsed, same⟩ := Option.map_eq_some_iff.mp mapped
    obtain ⟨output, accepted, isLed⟩ := Option.bind_eq_some_iff.mp parsed
    rw [ReportKind.only?_eq_some_iff.mp isLed] at accepted
    have isReport := OutputReport.fromBytes_eq_led_iff.mp accepted
    exact ⟨l, LedReport.fromBytes_eq_some_iff.mp isReport, same⟩
  · rintro ⟨l, shape, rfl⟩
    have isReport := LedReport.fromBytes_eq_some_iff.mpr shape
    have accepted := OutputReport.fromBytes_eq_led_iff.mpr isReport
    rw [parsedAs, accepted]
    rfl

/-! ## One step -/

/-- The poll that a call is, with both pointers valid. -/
def pollOf : ClientAction → Option (ReportKind × UInt8)
  | .x360PollRumble slot true true => some (.rumble, asU8 slot)
  | .x360PollLed slot => some (.led, asU8 slot)
  | _ => none

section Steps

variable {os : Os K} {receiver next : WirelessReceiver (RawGadgetTransport K)}

/-- What a step of the client can be. -/
inductive ClientStep (os : Os K) (receiver : WirelessReceiver (RawGadgetTransport K)) :
    ClientAction → WirelessReceiver (RawGadgetTransport K) → Prop where
  | thread (action : GadgetAction) (gadget : Gadget K) (isBackground : IsBackground action)
      (stepped : (receiver.transport.machine os).step receiver.transport.gadget action =
        some gadget) :
      ClientStep os receiver (.thread action) (withGadget receiver gadget)
  | polled (action : ClientAction) (kind : ReportKind) (index : UInt8) (inRange : index.toNat < 4)
      (isPoll : pollOf action = some (kind, index)) :
      ClientStep os receiver action
        { receiver with transport := ((hardware os).poll kind index).stateAfter receiver.transport }
  | silent (action : ClientAction) (noPoll : pollOf action = none)
      (noThread : ∀ step, action ≠ .thread step) (world : Ep0World K) :
      ClientStep os receiver action (withGadget receiver { receiver.transport.gadget with world })

/-- A call that returns leaves what its method leaves. -/
theorem called_eq_some {Code : Type}
    {call : Method (Option (WirelessReceiver (RawGadgetTransport K))) Empty Code}
    (returned : called call receiver = some next) :
    (call.result (some receiver)).isSome ∧ call.stateAfter (some receiver) = some next := by
  unfold called at returned
  split at returned
  · next isSome => exact ⟨isSome, returned⟩
  · cases returned

/-- A poll of the C interface leaves the transport as the poll of the transport does. -/
theorem called_poll (os : Os K) {Code : Type} (kind : ReportKind) (index : UInt8)
    {method : Method (WirelessReceiver (RawGadgetTransport K)) Errno (Option kind.Report)}
    (isPoll : method = onTransport ((hardware os).poll kind index))
    {code : Except Errno (Option kind.Report) → Code}
    {call : Method (Option (WirelessReceiver (RawGadgetTransport K))) Empty Code}
    (goesThrough : call (some receiver) = through method code receiver)
    (returned : called call receiver = some next) : index.toNat < 4 ∧
      next = { receiver with
        transport := ((hardware os).poll kind index).stateAfter receiver.transport } := by
  obtain ⟨isSome, left⟩ := called_eq_some returned
  rw [result_through method code goesThrough, isPoll, result_onTransport,
    (outputCells_hardware os).returned] at isSome
  rw [stateAfter_through method code goesThrough, isPoll, stateAfter_onTransport] at left
  refine ⟨?_, (Option.some.inj left).symm⟩
  refine Decidable.by_contra fun outside => ?_
  rw [if_neg outside] at isSome
  cases isSome

/-- A send moves at most the world of its transport. -/
theorem stateAfter_x360Send (os : Os K) (receiver : WirelessReceiver (RawGadgetTransport K))
    (slot : Int32) (data : Option (List UInt8)) : ∃ world,
    some (withGadget receiver { receiver.transport.gadget with world }) =
      (x360Send (hardware os) slot data).stateAfter (some receiver) := by
  cases data with
  | none => exact ⟨receiver.transport.gadget.world, rfl⟩
  | some bytes =>
      by_cases empty : bytes.length = 0
      · have refused : (x360Send (hardware os) slot (some bytes)) (some receiver) =
            .ok (.ok 0, some receiver) := if_pos empty
        refine ⟨receiver.transport.gadget.world, ?_⟩
        rw [Method.stateAfter, refused]
        rfl
      · have goesThrough : (x360Send (hardware os) slot (some bytes)) (some receiver) =
            through (sendRawInput (hardware os) (asU8 slot) bytes) sendCode receiver := if_neg empty
        rw [stateAfter_through _ _ goesThrough, sendRawInput]
        cases InputReport.fromBytes bytes with
        | none => exact ⟨receiver.transport.gadget.world, rfl⟩
        | some report =>
            dsimp only
            rw [stateAfter_onTransport, RawGadgetTransport.stateAfter_writeInputReport]
            exact ⟨_, rfl⟩

/-- Every step of a client is one of those that `ClientStep` lists. -/
theorem client_step {action : ClientAction}
    (stepped : (client os).step receiver action = some next) :
    ClientStep os receiver action next := by
  cases action with
  | x360Send slot data =>
      obtain ⟨-, left⟩ := called_eq_some stepped
      obtain ⟨world, kept⟩ := stateAfter_x360Send os receiver slot data
      cases kept.trans left
      exact .silent _ rfl (fun _ => ClientAction.noConfusion) world
  | x360PollRumble slot leftOut rightOut =>
      by_cases valid : leftOut = true ∧ rightOut = true
      · obtain ⟨rfl, rfl⟩ := valid
        obtain ⟨inRange, rfl⟩ := called_poll os .rumble (asU8 slot) rfl rfl stepped
        exact .polled _ .rumble (asU8 slot) inRange rfl
      · -- A NULL pointer is refused before the transport is asked.
        have refused : (x360PollRumble (hardware os) slot leftOut rightOut) (some receiver) =
            .ok (.ok (-1, none), some receiver) := by
          cases leftOut <;> cases rightOut <;> first | rfl | exact absurd ⟨rfl, rfl⟩ valid
        obtain ⟨-, left⟩ := called_eq_some stepped
        rw [Method.stateAfter, refused] at left
        cases Option.some.inj left
        refine .silent _ ?_ (fun _ => ClientAction.noConfusion) receiver.transport.gadget.world
        cases leftOut <;> cases rightOut <;> first | rfl | exact absurd ⟨rfl, rfl⟩ valid
  | x360PollLed slot =>
      obtain ⟨inRange, rfl⟩ := called_poll os .led (asU8 slot) rfl rfl stepped
      exact .polled _ .led (asU8 slot) inRange rfl
  | thread action =>
      simp only [client, Option.ite_none_right_eq_some, Option.map_eq_some_iff] at stepped
      obtain ⟨isBackground, gadget, moved, rfl⟩ := stepped
      exact .thread action gadget isBackground moved

/-- What a poll of a kind and slot takes. -/
def takes (kind : ReportKind) (slot : UInt8) (receiver : WirelessReceiver (RawGadgetTransport K))
    (action : ClientAction) : Option kind.Report :=
  if pollOf action = some (kind, slot) then
    RawGadgetTransport.waiting kind receiver.transport slot
  else none

/-- The client never closes the transport while it calls. -/
theorem opened_step {action : ClientAction} (opened : receiver.transport.gadget.closed = false)
    (stepped : (client os).step receiver action = some next) :
    next.transport.gadget.closed = false := by
  cases client_step stepped with
  | thread action gadget isBackground moved =>
      exact (closed_of_thread (.inl isBackground) moved).trans opened
  | polled _ kind index inRange isPoll =>
      rw [RawGadgetTransport.stateAfter_poll]
      exact opened
  | silent _ noPoll noThread world => exact opened

variable {kind : ReportKind} {slot : UInt8}

/-- The cell of a kind and slot keeps the newest report received until a poll takes it. -/
theorem keepsNewest (os : Os K) (kind : ReportKind) (inRange : slot.toNat < 4) :
    (client os).KeepsNewest (fun receiver => receiver.transport.gadget.closed = false)
      (fun receiver => RawGadgetTransport.waiting kind receiver.transport slot)
      (fun _ => receivedAs (parsedAs kind) slot) (takes kind slot) := by
  have cells := outputCells_hardware os
  refine ⟨?_, ?_⟩
  · intro receiver action next value opened stepped took
    simp only [takes, Option.ite_none_right_eq_some] at took
    obtain ⟨isPoll, waiting⟩ := took
    cases client_step stepped with
    | thread action gadget isBackground moved => cases isPoll
    | polled _ polled index valid isPolled =>
        cases isPoll.symm.trans isPolled
        refine ⟨waiting, ?_, ?_⟩
        · rw [cells.taken kind slot _ kind slot inRange, if_pos ⟨rfl, rfl⟩]
        · cases action <;> first | rfl | cases isPoll
    | silent _ noPoll noThread world => cases isPoll.symm.trans noPoll
  · intro receiver action next opened stepped kept
    cases client_step stepped with
    | thread action gadget isBackground moved =>
        exact waiting_output_of_thread (.inl isBackground) opened inRange moved
    | polled _ polled index valid isPolled =>
        have quiet : receivedAs (parsedAs kind) slot action = none := by
          cases action <;> first | rfl | cases isPolled
        rw [quiet, Option.none_or, cells.taken polled index _ kind slot inRange]
        split
        · next same =>
            obtain ⟨rfl, rfl⟩ := same
            rw [takes, if_pos isPolled] at kept
            exact kept.symm
        · rfl
    | silent _ noPoll noThread world =>
        have quiet : receivedAs (parsedAs kind) slot action = none := by
          cases action <;> first | rfl | exact absurd rfl (noThread _)
        rw [quiet, Option.none_or]
        rfl

/-- Once a poll has returned nothing waits for it. -/
theorem waiting_polled (inRange : slot.toNat < 4) {action : ClientAction}
    (isPoll : pollOf action = some (kind, slot))
    (stepped : (client os).step receiver action = some next) :
    RawGadgetTransport.waiting kind next.transport slot = none := by
  cases client_step stepped with
  | thread action gadget isBackground moved => cases isPoll
  | polled _ polled index valid isPolled =>
      cases isPoll.symm.trans isPolled
      rw [(outputCells_hardware os).taken kind slot _ kind slot inRange, if_pos ⟨rfl, rfl⟩]
  | silent _ noPoll noThread world => cases isPoll.symm.trans noPoll

/-- `x360_poll_rumble` writes the motors of the report it takes. -/
theorem motorsOut_eq (inRange : slot.toNat < 4) (action : ClientAction) :
    motorsOut os slot receiver action = (takes .rumble slot receiver action).map motors := by
  cases action with
  | x360PollRumble index leftOut rightOut =>
      by_cases valid : leftOut = true ∧ rightOut = true
      · obtain ⟨rfl, rfl⟩ := valid
        by_cases same : slot = asU8 index
        · have result : (x360PollRumble (hardware os) index true true).result (some receiver) =
              some (.ok (rumbleCode (.ok
                (RawGadgetTransport.waiting .rumble receiver.transport slot) :
                  Except Errno _))) := by
            rw [result_through (pollRumble (hardware os) (asU8 index)) rumbleCode rfl, pollRumble,
              result_onTransport, ← same]
            have returned := (outputCells_hardware os).returned .rumble slot receiver.transport
            rw [if_pos inRange] at returned
            exact congrArg (Option.map fun returned => Except.ok (rumbleCode returned)) returned
          rw [motorsOut, if_pos same, result, takes, pollOf, if_pos (by rw [same])]
          cases RawGadgetTransport.waiting .rumble receiver.transport slot <;> rfl
        · have other : ¬some (ReportKind.rumble, asU8 index) = some (.rumble, slot) := by
            intro equal
            exact same (Prod.mk.inj (Option.some.inj equal)).2.symm
          rw [motorsOut, if_neg same, takes, pollOf, if_neg other]
          rfl
      · have refused : (x360PollRumble (hardware os) index leftOut rightOut).result
            (some receiver) = some (.ok (-1, none)) := by
          cases leftOut <;> cases rightOut <;> first | rfl | exact absurd ⟨rfl, rfl⟩ valid
        have noPoll : pollOf (.x360PollRumble index leftOut rightOut) = none := by
          cases leftOut <;> cases rightOut <;> first | rfl | exact absurd ⟨rfl, rfl⟩ valid
        rw [motorsOut, refused, takes, noPoll]
        split <;> rfl
  | x360PollLed index =>
      have other : ¬some (ReportKind.led, asU8 index) = some (.rumble, slot) :=
        fun equal => ReportKind.noConfusion (Prod.mk.inj (Option.some.inj equal)).1
      rw [takes, pollOf, if_neg other]
      rfl
  | _ => rfl

/-- An animation code is never taken for the lack of a report. -/
theorem animationCode_nonneg (l : LedReport) : 0 ≤ animationCode l := by
  obtain ⟨animation⟩ := l
  cases animation <;> decide

/-- `x360_poll_led` returns the code of the report it takes. -/
theorem animationOut_eq (inRange : slot.toNat < 4) (action : ClientAction) :
    animationOut os slot receiver action = (takes .led slot receiver action).map animationCode := by
  cases action with
  | x360PollLed index =>
      by_cases same : slot = asU8 index
      · have result : (x360PollLed (hardware os) index).result (some receiver) =
            some (.ok (ledCode (.ok
              (RawGadgetTransport.waiting .led receiver.transport slot) : Except Errno _))) := by
          rw [result_through (pollLed (hardware os) (asU8 index)) ledCode rfl, pollLed,
            result_onTransport, ← same]
          have returned := (outputCells_hardware os).returned .led slot receiver.transport
          rw [if_pos inRange] at returned
          exact congrArg (Option.map fun returned => Except.ok (ledCode returned)) returned
        rw [animationOut, if_pos same, result, takes, pollOf, if_pos (by rw [same])]
        cases RawGadgetTransport.waiting .led receiver.transport slot with
        | none => rfl
        | some l => exact if_pos (animationCode_nonneg l)
      · have other : ¬some (ReportKind.led, asU8 index) = some (.led, slot) := by
          intro equal
          exact same (Prod.mk.inj (Option.some.inj equal)).2.symm
        rw [animationOut, if_neg same, takes, pollOf, if_neg other]
        rfl
  | x360PollRumble index leftOut rightOut =>
      have other : pollOf (.x360PollRumble index leftOut rightOut) ≠ some (.led, slot) := by
        cases leftOut <;> cases rightOut <;> simp [pollOf]
      rw [takes, if_neg other]
      rfl
  | _ => rfl

end Steps

/-! ## Runs -/

/-- What the polls of a slot return accounts for everything received: all of it, up to
the last poll, was returned or superseded by a newer value that was. -/
def Accounts {V : Type} (os : Os K) (start : WirelessReceiver (RawGadgetTransport K))
    (read : List UInt8 → Option V)
    (returned : WirelessReceiver (RawGadgetTransport K) → ClientAction → Option V)
    (kind : ReportKind) (slot : UInt8) (actions : List ClientAction) : Prop :=
  ∃ pending takings,
    Account (actions.filterMap (receivedAs read slot)) ((client os).image returned start actions)
        pending takings ∧
      ∀ earlier poll, pollOf poll = some (kind, slot) → earlier ++ [poll] <+: actions →
        earlier.filterMap (receivedAs read slot) <+: settled takings

section Runs

variable {os : Os K} {config : ConfigDescriptorSet} {fd : Int32} {kernel : K} {slot : UInt8}
  {actions : List ClientAction} {finish : WirelessReceiver (RawGadgetTransport K)}

/-- What the polls return is accounted for by the packets, where the buffer keeps
the newest. -/
theorem accounts_of_keepsNewest {V : Type} (kind : ReportKind) (inRange : slot.toNat < 4)
    (view : kind.Report → V) {read : List UInt8 → Option V}
    (reads : ∀ packet, (parsedAs kind packet).map view = read packet)
    {returned : WirelessReceiver (RawGadgetTransport K) → ClientAction → Option V}
    (returns : ∀ receiver action,
      returned receiver action = (takes kind slot receiver action).map view)
    (runs : (client os).run (.new config (.start config fd kernel)) actions = some finish) :
    Accounts os (.new config (.start config fd kernel)) read returned kind slot actions := by
  have sameReads : (fun action => (receivedAs (parsedAs kind) slot action).map view) =
      receivedAs read slot := by
    funext action
    cases action with
    | thread action =>
        rw [receivedAs, receivedAs, ← funext reads]
        cases received slot action <;> rfl
    | _ => rfl
  have sameReturns : (fun receiver action => (takes kind slot receiver action).map view) =
      returned := by
    funext receiver action
    exact (returns receiver action).symm
  have keeps : (client os).KeepsNewest (fun receiver => receiver.transport.gadget.closed = false)
      (fun receiver => (RawGadgetTransport.waiting kind receiver.transport slot).map view)
      (fun _ => receivedAs read slot) returned := by
    rw [← sameReads, ← sameReturns]
    exact (keepsNewest os kind inRange).map view
  have empty : (RawGadgetTransport.waiting kind (.start config fd kernel : RawGadgetTransport K)
      slot).map view = none := Option.map_eq_none_iff.mpr ReportKind.waiting_new
  obtain ⟨pending, takings, account, -, cleared⟩ :=
    Machine.account_of_run keeps opened_step rfl empty runs
  rw [Machine.image_of_run _ runs] at account
  refine ⟨pending, takings, account, ?_⟩
  intro earlier poll isPoll isPrefix
  obtain ⟨rest, rfl⟩ := isPrefix
  rw [Machine.run_append, Option.bind_eq_some_iff] at runs
  obtain ⟨after, reached, -⟩ := runs
  obtain ⟨before, reachedBefore, stepped⟩ := (Machine.run_concat_eq_some _).mp reached
  have settles := cleared _ after ⟨rest, rfl⟩ reached
    (Option.map_eq_none_iff.mpr (waiting_polled inRange isPoll stepped))
  rw [Machine.image_of_run _ reached, List.filterMap_append] at settles
  exact (List.prefix_append _ _).trans settles

/-- Whatever packets the readers receive between the calls, the motors that
`x360_poll_rumble` writes and the codes that `x360_poll_led` returns account for the
rumble and the LED packets of the slot, as read byte by byte. -/
theorem clientPolls_of_run (inRange : slot.toNat < 4)
    (runs : (client os).run (.new config (.start config fd kernel)) actions = some finish) :
    Accounts os (.new config (.start config fd kernel)) motorsIn (motorsOut os slot) .rumble slot
        actions ∧
      Accounts os (.new config (.start config fd kernel)) animationIn (animationOut os slot) .led
        slot actions :=
  ⟨accounts_of_keepsNewest .rumble inRange motors parsedAs_rumble
      (fun _ => motorsOut_eq inRange) runs,
    accounts_of_keepsNewest .led inRange animationCode parsedAs_led
      (fun _ => animationOut_eq inRange) runs⟩

end Runs

/-- The host configures the device, rumbles twice and sets the ring, and the client polls
slot 0, the second time as index 256. -/
def pollTwice : List ClientAction :=
  [.thread (.fetch (.ok (.setConfiguration 1))),
    .thread (.epOut ⟨0, 1⟩ (packetRead [0, 8, 0, 50, 60, 0, 0, 0] (by decide))),
    .thread (.epOut ⟨0, 1⟩ (packetRead [0, 8, 0, 10, 20, 0, 0, 0] (by decide))),
    .x360PollRumble 0 true true,
    .thread (.epOut ⟨0, 1⟩ (packetRead [1, 3, 6] (by decide))), .x360PollLed 256]

/-- A client that polls twice after one rumble packet reads its motors once. -/
theorem clientPolls_of_run_twice : ∃ finish,
    (client .counting).run (.new oneSlot (.start oneSlot 3 0)) pollTwice = some finish ∧
      Accounts .counting (.new oneSlot (.start oneSlot 3 0)) motorsIn (motorsOut .counting 0)
          .rumble 0 pollTwice ∧
        (client .counting).image (motorsOut .counting 0) (.new oneSlot (.start oneSlot 3 0))
          pollTwice = [(10, 20)] := by
  have runs : (client .counting).run (.new oneSlot (.start oneSlot 3 0)) pollTwice = some _ := rfl
  exact ⟨_, runs, (clientPolls_of_run (by decide : (0 : UInt8).toNat < 4) runs).1, rfl⟩

end X360Gadget.Capi
