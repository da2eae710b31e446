import X360Gadget.Kernel.Table
import X360Gadget.Transport.Advertised
import X360Gadget.Transport.DataStage
import X360Gadget.Transport.EndpointTable
import X360Gadget.Transport.Lifetime

/-!
# Enumeration

The other end of the ep0 thread is a host. It asks for the header of the configuration
descriptor, then for as many bytes as the header says, and selects the configuration it
found there. Its requests queue up with the bus events for the ep0 thread, which fetches
one at a time while the other threads of the gadget go on. `enumeration_agrees` says
what host and gadget agree on in every state, and `enumeration_completes` that a bus
reset and three requests lead there from any state in which the ep0 thread can go on.
-/

namespace X360Gadget.Transport

open X360Gadget.Descriptors X360Gadget.Kernel X360Gadget.Std

variable {K : Type}

/-! ## The host -/

/-- What ends a control transfer for the host. -/
inductive Answer where
  | data (bytes : List UInt8)
  | acknowledged
  | stalled
deriving DecidableEq, Repr

/-- The answer that a call gives; a call that fails gives none. -/
def answered : Interaction → Option Answer
  | .called (.ep0Write io) reply => reply.result.toOption.map fun _ => .data (sent io)
  | .called (.ep0Read _) reply => reply.result.toOption.map fun _ => .acknowledged
  | .called .ep0Stall reply => reply.result.toOption.map fun _ => .stalled
  | _ => none

/-- What the host has found out. -/
inductive Knowledge where
  | nothing
  /-- `wTotalLength` of the configuration. -/
  | totalLength (length : UInt16)
  | configuration (blob : List UInt8)
  | configured (blob : List UInt8)
deriving DecidableEq, Repr

/-- GET_DESCRIPTOR of the configuration. -/
def getConfiguration (length : UInt16) : UsbCtrlrequest where
  bRequestType := 0x80
  bRequest := usbReqGetDescriptor
  wValue := 0x0200
  wIndex := 0
  wLength := length

/-- The request that brings the host further. -/
def Knowledge.request : Knowledge → Option UsbCtrlrequest
  | .nothing => some (getConfiguration 9)
  | .totalLength length => some (getConfiguration length)
  | .configuration blob =>
      some (UsbRawControlEvent.setConfiguration (blob.getD 5 0).toUInt16).ctrl
  | .configured _ => none

/-- What the host makes of the answer; anything unexpected makes it start over. -/
def Knowledge.hear : Knowledge → Answer → Knowledge
  | .nothing, .data bytes =>
      if bytes.length = 9 then
        .totalLength (UInt16.ofNat ((bytes.getD 2 0).toNat + 256 * (bytes.getD 3 0).toNat))
      else .nothing
  | .totalLength length, .data bytes =>
      if bytes.length = length.toNat then .configuration bytes else .nothing
  | .configuration blob, .acknowledged => .configured blob
  | _, _ => .nothing

/-- Why the host waits for an answer. -/
inductive Asking where
  | further
  /-- Any request beside the enumeration. -/
  | other
deriving DecidableEq, Repr

/-- What the host knows, and the request whose answer it awaits. -/
structure Host where
  knows : Knowledge
  asking : Option Asking
deriving DecidableEq, Repr

/-- The transfer of the pending request ends, or not yet. -/
def Host.hear (host : Host) (answer : Option Answer) : Host :=
  match host.asking, answer with
  | some .further, some answer => { knows := host.knows.hear answer, asking := none }
  | some .other, some _ => { host with asking := none }
  | _, none => host
  | none, _ => host

/-! ## Host and gadget -/

/-- The host, the events the ep0 thread has not fetched yet, and the gadget. -/
structure Enumeration (K : Type) where
  host : Host
  queue : List UsbRawControlEvent
  gadget : Gadget K

/-- A step of the host, of the bus or of a thread of the gadget. -/
inductive EnumerationAction where
  /-- An event of the bus, such as a reset, between two requests. -/
  | bus (event : UsbRawControlEvent)
  /-- The host sends its next request. -/
  | further
  /-- The host sends some other request. -/
  | other (request : UsbCtrlrequest)
  /-- The ep0 thread fetches the oldest event and handles it. -/
  | fetch
  /-- Any other step of any thread. -/
  | thread (action : GadgetAction)
deriving DecidableEq

/-- The event that delivers a request. -/
def controlEvent (request : UsbCtrlrequest) : UsbRawControlEvent where
  typ := usbRawEventControl
  ctrl := request

/-- A fetch that delivers an event. -/
def IsEvent : GadgetAction → Prop
  | .fetch (.ok _) => True
  | _ => False

instance : DecidablePred IsEvent
  | .fetch (.ok _) => .isTrue trivial
  | .fetch (.error _) | .epOut _ _ | .lookup _ _ | .epWrite | .poll _ _ | .waitReady
  | .writeDescriptor | .drop => .isFalse id

section Step

variable (os : Os K) (config : ConfigDescriptorSet)

/-- The gadget of a configuration. -/
abbrev gadgetOf : Machine (Gadget K) GadgetAction :=
  gadget os config.numInterfaces (buildDescriptorBytes config)

/-- One step of the host, of the bus or of the gadget. -/
def Enumeration.step (s : Enumeration K) : EnumerationAction → Option (Enumeration K)
  | .bus event =>
      if s.host.asking = none ∧ event.typ ≠ usbRawEventControl then
        some { s with
          host := if IsDetach event then { s.host with knows := .nothing } else s.host
          queue := s.queue ++ [event] }
      else none
  | .further =>
      if s.host.asking = none then
        s.host.knows.request.map fun request => { s with
          host := { s.host with asking := some .further }
          queue := s.queue ++ [controlEvent request] }
      else none
  | .other request =>
      if s.host.asking = none ∧ ¬IsSetConfiguration request then
        some { s with
          host := { s.host with asking := some .other }
          queue := s.queue ++ [controlEvent request] }
      else none
  | .fetch =>
      match s.queue with
      | [] => none
      | event :: rest =>
          ((gadgetOf os config).step s.gadget (.fetch (.ok event))).map fun gadget => {
            host :=
              if event.typ = usbRawEventControl then
                s.host.hear ((newEntries s.gadget.world gadget.world).findSome? answered)
              else s.host
            queue := rest
            gadget }
  | .thread action =>
      if IsEvent action then none
      else ((gadgetOf os config).step s.gadget action).map fun gadget => { s with gadget }

/-- The host and the gadget as a machine. -/
def enumeration : Machine (Enumeration K) EnumerationAction where
  step := Enumeration.step os config

end Step

/-- The device is not attached yet. -/
def Enumeration.new (kernel : K) : Enumeration K where
  host := { knows := .nothing, asking := none }
  queue := []
  gadget := .new kernel

/-! ## What the two agree on -/

/-- Every endpoint of the configuration was passed to `EP_ENABLE` since the last RESET
or DISCONNECT. -/
def Announced (n : Nat) (log : List Interaction) : Prop :=
  ∀ record ∈ (slotGroups n).flatMap SlotGroup.endpoints,
    record ∈ (enabledDescriptors (sinceDetach log)).map descriptorPart

/-- What the host knows is so. -/
def Knowledge.Holds (n : Nat) (serving : Prop) : Knowledge → Prop
  | .nothing => True
  | .totalLength length => length.toNat = (configBlob n).length
  | .configuration blob => blob = configBlob n
  | .configured blob => blob = configBlob n ∧ serving

/-- The pending request is the one the host waits for. -/
def Knowledge.Asks (knows : Knowledge) (request : UsbCtrlrequest) : Asking → Prop
  | .further => knows.request = some request
  | .other => ¬IsSetConfiguration request

/-- The gadget serves the configuration, and no event that ends that is on its way. -/
structure Serving (n : Nat) (s : Enumeration K) : Prop where
  ready : s.gadget.world.shared.ready = true
  announced : Announced n s.gadget.world.log
  attached : ∀ event ∈ s.queue, ¬IsDetach event

/-- What the host knows holds of the gadget, and the queue fits what it asks. -/
structure Agrees (n : Nat) (s : Enumeration K) : Prop where
  holds : s.host.knows.Holds n (Serving n s)
  quiet : s.host.asking = none → ∀ event ∈ s.queue, event.typ ≠ usbRawEventControl
  asked : ∀ asking, s.host.asking = some asking → s.queue = [] ∨ ∃ earlier request,
    s.queue = earlier ++ [controlEvent request] ∧
      (∀ event ∈ earlier, event.typ ≠ usbRawEventControl) ∧ s.host.knows.Asks request asking

/-- A control request is no detach. -/
theorem not_isDetach_controlEvent (request : UsbCtrlrequest) :
    ¬IsDetach (controlEvent request) := by
  rintro (reset | disconnect)
  · exact (by decide : usbRawEventControl ≠ usbRawEventReset) reset
  · exact (by decide : usbRawEventControl ≠ usbRawEventDisconnect) disconnect

/-! ## What a step logs -/

section Log

variable {os : Os K} {n : Nat} {w w' : Ep0World K} {action : GadgetAction}
  {log entries : List Interaction}

/-- Entries that do not detach are there since the last detach. -/
theorem sinceDetach_append (attached : ∀ entry ∈ entries, isDetachEntry entry = false) :
    sinceDetach (log ++ entries) = entries.reverse ++ sinceDetach log := by
  induction entries using List.reverseRecOn with
  | nil => rw [List.append_nil, List.reverse_nil, List.nil_append]
  | append_singleton entries last ih =>
      have lastAttached := attached last (List.mem_append_right _ List.mem_cons_self)
      rw [← List.append_assoc, sinceDetach_concat, lastAttached, if_neg Bool.false_ne_true,
        ih fun entry member => attached entry (List.mem_append_left _ member),
        List.reverse_append]
      rfl

/-- An announcement lasts while nothing detaches. -/
theorem Announced.append (announced : Announced n log)
    (attached : ∀ entry ∈ entries, isDetachEntry entry = false) :
    Announced n (log ++ entries) := by
  intro record member
  rw [sinceDetach_append attached, enabledDescriptors_append, List.map_append]
  exact List.mem_append_right _ (announced record member)

/-- A step that fetches no detach logs none. -/
theorem attached_of_worldStep (stepped : WorldStep os n w action w')
    (noDetach : ∀ event, action = .fetch (.ok event) → ¬IsDetach event) :
    ∃ entries, w'.log = w.log ++ entries ∧ ∀ entry ∈ entries, isDetachEntry entry = false := by
  have nothing : ∃ entries, w.log = w.log ++ entries ∧
      ∀ entry ∈ entries, isDetachEntry entry = false :=
    ⟨[], (List.append_nil _).symm, fun _ member => absurd member List.not_mem_nil⟩
  cases stepped with
  | handled event w' outcome =>
      have last : isDetachEntry (.handled event) = false := decide_eq_false (noDetach event rfl)
      have handled : ∀ {v : Ep0World K} {calls : List Interaction}, v.log = w.log ++ calls →
          (∀ entry ∈ calls, isDetachEntry entry = false) → ∃ entries,
            (markHandled event v).log = w.log ++ entries ∧
              ∀ entry ∈ entries, isDetachEntry entry = false := by
        intro v calls log attached
        refine ⟨calls ++ [.handled event], ?_, ?_⟩
        · rw [markHandled, log, List.append_assoc]
        · intro entry member
          rcases List.mem_append.mp member with early | isLast
          · exact attached entry early
          · rw [List.mem_singleton.mp isLast]
            exact last
      cases outcome with
      | ignored attached other => exact handled (List.append_nil _).symm (by simp)
      | detached detach sound => exact absurd detach (noDetach event rfl)
      | answered attached other call reply =>
          refine handled (w.issue_log os call) ?_
          intro entry member
          rw [List.mem_singleton.mp member]
          rfl
      | configured configures sound =>
          obtain ⟨calls, draw, configure, acknowledge, log, slotCalls⟩ := configured_log os n w
          refine handled log ?_
          intro entry member
          rcases List.mem_append.mp member with early | late
          · have slotCall := slotCalls entry early
            cases entry with
            | handled event => cases slotCall
            | called call reply => rfl
          · simp only [List.mem_cons, List.not_mem_nil, or_false] at late
            rcases late with rfl | rfl | rfl <;> rfl
  | panicked event blocked => exact nothing
  | readerEnded reader read => exact nothing
  | poisoned slot report => exact nothing
  | wrote io =>
      refine ⟨_, w.issue_log os (.epWrite io), ?_⟩
      intro entry member
      rw [List.mem_singleton.mp member]
      rfl
  | unchanged action noEvent => exact nothing

/-- A SET_CONFIGURATION that is handled announces every endpoint. -/
theorem announced_configured (few : n ≤ 4) {event : UsbRawControlEvent}
    (configures : Configures event) (stepped : WorldStep os n w (.fetch (.ok event)) w') :
    w' = w ∨ w'.shared.ready = true ∧ Announced n w'.log := by
  have attached : ¬IsDetach event := fun detach => not_configures_of_isDetach detach configures
  obtain ⟨entries, log, noDetach⟩ := attached_of_worldStep stepped (by rintro _ ⟨⟩; exact attached)
  cases stepped with
  | handled event w' outcome =>
      cases outcome with
      | ignored _ other => exact absurd configures other
      | detached detach => exact absurd detach attached
      | answered _ other => exact absurd configures other
      | configured _ sound =>
          refine .inr ⟨rfl, ?_⟩
          have size : (UInt8.ofNat n).toNat = n := by
            rw [UInt8.toNat_ofNat']
            omega
          obtain ⟨calls, logged, -, whole⟩ := enables_setConfiguration os (UInt8.ofNat n) w
          have completed : setConfiguration os (UInt8.ofNat n) w = .ok (configured os n w) := by
            have completes : setConfiguration os (UInt8.ofNat n) w =
                .ok (configured os (UInt8.ofNat n).toNat w) := setConfiguration_eq (by omega) sound
            rwa [size] at completes
          rw [completed, size] at whole
          rw [completed] at logged
          have enabled := whole _ rfl
          have same : entries = calls ++ [.handled event] := by
            have both : w.log ++ entries = w.log ++ (calls ++ [.handled event]) := by
              rw [← log, markHandled, ← List.append_assoc, ← logged]
              rfl
            exact List.append_cancel_left both
          intro record member
          rw [log, sinceDetach_append noDetach, enabledDescriptors_append, List.map_append, same,
            enabledDescriptors, List.filterMap_reverse, ← enabledDescriptors,
            enabledDescriptors_append, enabled]
          refine List.mem_append_left _ ?_
          rw [List.map_reverse, List.mem_reverse, List.map_append, slotEndpoints_eq_endpoints]
          exact List.mem_append_left _ member
  | panicked event blocked => exact .inl rfl
  | unchanged action noEvent => exact absurd rfl (noEvent event)

end Log

/-! ## What the host hears -/

section Answers

variable {os : Os K} {config : ConfigDescriptorSet} {g next : Gadget K} {request : UsbCtrlrequest}

/-- A fetch that delivers a request other than SET_CONFIGURATION. -/
theorem fetch_request (other : ¬IsSetConfiguration request)
    (stepped : (gadgetOf os config).step g (.fetch (.ok (controlEvent request))) = some next) :
    (newEntries g.world next.world).findSome? answered =
      (controlReply (buildDescriptorBytes config) request).bind fun call =>
        answered (.called call (g.world.reply os call)) := by
  have handled : handleEvent os config.numInterfaces (buildDescriptorBytes config)
      (controlEvent request) g.world =
        handleControl os config.numInterfaces request (buildDescriptorBytes config) g.world := rfl
  cases gadget_step stepped with
  | fetch result alive =>
      rw [stepFetch, ep0Iteration, handled, handleControl_of_not_setConfiguration other]
      cases controlReply (buildDescriptorBytes config) request with
      | none =>
          change (newEntries g.world g.world).findSome? answered = none
          rw [newEntries_of_log (List.append_nil _).symm]
          rfl
      | some call =>
          have log : (markHandled (controlEvent request) (g.world.issue os call)).log =
              g.world.log ++ [.called call (g.world.reply os call),
                .handled (controlEvent request)] := List.append_assoc _ _ _
          change (newEntries g.world (markHandled _ (g.world.issue os call))).findSome? answered = _
          rw [newEntries_of_log log, List.findSome?_cons, Option.bind_some]
          cases answered (.called call (g.world.reply os call)) <;> rfl

/-- The configuration is sent as far as the host asked for it. -/
theorem controlReply_getConfiguration (config : ConfigDescriptorSet) (length : UInt16) : ∃ io,
    controlReply (buildDescriptorBytes config) (getConfiguration length) = some (.ep0Write io) ∧
      sent io = (configBlob config.numInterfaces.toNat).take length.toNat := by
  have get : IsGetDescriptor (getConfiguration length) :=
    ⟨(by decide : (0x80 : UInt8) &&& usbTypeMask = usbTypeStandard), rfl⟩
  have type : ((0x0200 : UInt16) >>> 8).toUInt8 = usbDtConfig := by decide
  have data : descriptorData (buildDescriptorBytes config) (getConfiguration length).wValue =
      some (configBlob config.numInterfaces.toNat) := by
    rw [getConfiguration, descriptorData]
    dsimp only
    rw [type, if_neg (by decide), if_neg (by decide), if_pos rfl]
    rfl
  rw [controlReply_of_getDescriptor get, data]
  dsimp only
  cases replied : descriptorReply (configBlob config.numInterfaces.toNat)
      (getConfiguration length).wLength.toNat with
  | none =>
      have tooLong := descriptorReply_eq_none_iff.mp replied
      have bound := config.numInterfaces.toNat_lt
      rw [length_configBlob] at tooLong
      omega
  | some call =>
      obtain ⟨io, rfl, -, sends⟩ := descriptorReply_sends replied
      exact ⟨io, rfl, sends⟩

/-- What the host hears when it asks for the configuration. -/
theorem hears_getConfiguration {length : UInt16} {answer : Answer}
    (stepped : (gadgetOf os config).step g
      (.fetch (.ok (controlEvent (getConfiguration length)))) = some next)
    (heard : (newEntries g.world next.world).findSome? answered = some answer) :
    answer = .data ((configBlob config.numInterfaces.toNat).take length.toNat) := by
  obtain ⟨io, replied, sends⟩ := controlReply_getConfiguration config length
  have other : ¬IsSetConfiguration (getConfiguration length) := by
    rintro ⟨-, set⟩
    exact (by decide : usbReqGetDescriptor ≠ usbReqSetConfiguration) set
  rw [fetch_request other stepped, replied, Option.bind_some, answered,
    Option.map_eq_some_iff] at heard
  obtain ⟨-, -, rfl⟩ := heard
  rw [sends]

/-- The header says how long the configuration is. -/
theorem hear_header {n : Nat} (few : n ≤ 4) : ∃ length,
    Knowledge.nothing.hear (.data ((configBlob n).take 9)) = .totalLength length ∧
      length.toNat = (configBlob n).length := by
  have header : (configBlob n).take 9 = configHeader n := by
    rw [configBlob, List.take_left' (length_configHeader n)]
  have total := (configBlob_advertises (n := n) (by omega)).totalLength
  refine ⟨UInt16.ofNat (configBlob n).length, ?_, ?_⟩
  · rw [header, Knowledge.hear, if_pos (length_configHeader n), total]
  · rw [UInt16.toNat_ofNat', length_configBlob]
    omega

/-- As many bytes as the header says are the configuration. -/
theorem hear_configuration {n : Nat} {length : UInt16}
    (whole : length.toNat = (configBlob n).length) :
    (Knowledge.totalLength length).hear (.data ((configBlob n).take length.toNat)) =
      .configuration (configBlob n) := by
  rw [List.take_of_length_le (Nat.le_of_eq whole.symm), Knowledge.hear, if_pos whole.symm]

end Answers

/-! ## One step -/

section Agreement

variable {os : Os K} {config : ConfigDescriptorSet} {s next : Enumeration K}

/-- A host that knows nothing agrees with a gadget that starts. -/
theorem agrees_new (n : Nat) (kernel : K) : Agrees n (.new kernel) where
  holds := trivial
  quiet := fun _ _ member => absurd member List.not_mem_nil
  asked := by rintro asking ⟨⟩

/-- What the host knows stays so while the gadget goes on serving. -/
theorem Knowledge.Holds.mono {n : Nat} {serving serving' : Prop} {knows : Knowledge}
    (holds : knows.Holds n serving) (goesOn : serving → serving') : knows.Holds n serving' := by
  cases knows with
  | configured blob => exact ⟨holds.1, goesOn holds.2⟩
  | _ => exact holds

/-- A step that fetches no detach and no SET_CONFIGURATION leaves the gadget serving. -/
theorem Serving.step {n : Nat} (serving : Serving n s) {action : GadgetAction} {g : Gadget K}
    (stepped : WorldStep os n s.gadget.world action g.world)
    (uneventful : ∀ event, action = .fetch (.ok event) → ¬IsDetach event ∧ ¬Configures event)
    {host : Host} {queue : List UsbRawControlEvent} (rest : ∀ event ∈ queue, event ∈ s.queue) :
    Serving n { host, queue, gadget := g } := by
  obtain ⟨entries, log, attached⟩ := attached_of_worldStep stepped
    fun event fetched => (uneventful event fetched).1
  refine ⟨?_, ?_, fun event member => serving.attached event (rest event member)⟩
  · change g.world.shared.ready = true
    rw [shared_of_worldStep stepped uneventful]
    exact serving.ready
  · change Announced n g.world.log
    rw [log]
    exact serving.announced.append attached

/-- The request that goes with an event at the head of the queue. -/
theorem Agrees.head {n : Nat} (agrees : Agrees n s) {event : UsbRawControlEvent}
    {rest : List UsbRawControlEvent} (queue : s.queue = event :: rest)
    (control : event.typ = usbRawEventControl) : rest = [] ∧ ∃ asking request,
      s.host.asking = some asking ∧ event = controlEvent request ∧
        s.host.knows.Asks request asking := by
  have inQueue : event ∈ s.queue := queue ▸ List.mem_cons_self
  cases asks : s.host.asking with
  | none => exact absurd control (agrees.quiet asks event inQueue)
  | some asking =>
      rcases agrees.asked asking asks with empty | ⟨earlier, request, whole, bus, pending⟩
      · rw [empty] at queue
        cases queue
      · cases earlier with
        | nil =>
            cases queue.symm.trans whole
            exact ⟨rfl, asking, request, rfl, rfl, pending⟩
        | cons first earlier =>
            cases queue.symm.trans whole
            exact absurd control (bus event List.mem_cons_self)

/-- An event of the bus keeps the host and the gadget in agreement. -/
theorem Agrees.bus {n : Nat} (agrees : Agrees n s) {event : UsbRawControlEvent}
    (stepped : s.step os config (.bus event) = some next) : Agrees n next := by
  simp only [Enumeration.step, Option.ite_none_right_eq_some, Option.some.injEq] at stepped
  obtain ⟨⟨idle, isBus⟩, rfl⟩ := stepped
  have sameAsking : ∀ host : Host, (if IsDetach event then { host with knows := .nothing }
      else host).asking = host.asking := by
    intro host
    split <;> rfl
  refine ⟨?_, ?_, ?_⟩
  · dsimp only
    split
    · trivial
    · next attached =>
        refine agrees.holds.mono fun serving => ⟨serving.ready, serving.announced, ?_⟩
        intro other member
        rcases List.mem_append.mp member with earlier | isLast
        · exact serving.attached other earlier
        · rw [List.mem_singleton.mp isLast]
          exact attached
  · intro _ other member
    rcases List.mem_append.mp member with earlier | isLast
    · exact agrees.quiet idle other earlier
    · rw [List.mem_singleton.mp isLast]
      exact isBus
  · intro asking asks
    dsimp only at asks
    rw [sameAsking, idle] at asks
    cases asks

/-- Sending a request keeps what is known and leaves it pending. -/
theorem Agrees.send {n : Nat} (agrees : Agrees n s) (idle : s.host.asking = none)
    {request : UsbCtrlrequest} {asking : Asking} (asks : s.host.knows.Asks request asking) :
    Agrees n { s with
      host := { s.host with asking := some asking }
      queue := s.queue ++ [controlEvent request] } := by
  refine ⟨?_, ?_, ?_⟩
  · refine agrees.holds.mono fun serving => ⟨serving.ready, serving.announced, ?_⟩
    intro other member
    rcases List.mem_append.mp member with earlier | isLast
    · exact serving.attached other earlier
    · rw [List.mem_singleton.mp isLast]
      exact not_isDetach_controlEvent request
  · rintro ⟨⟩
  · rintro _ ⟨⟩
    exact .inr ⟨s.queue, request, rfl, agrees.quiet idle, asks⟩

/-- An event of the bus leaves the host as it is. -/
theorem Agrees.fetch_bus {n : Nat} (agrees : Agrees n s) {event : UsbRawControlEvent}
    {rest : List UsbRawControlEvent} (queue : s.queue = event :: rest)
    (isBus : event.typ ≠ usbRawEventControl) {g : Gadget K}
    (stepped : WorldStep os n s.gadget.world (.fetch (.ok event)) g.world) :
    Agrees n { s with queue := rest, gadget := g } := by
  have member : ∀ other ∈ rest, other ∈ s.queue := by
    intro other inRest
    rw [queue]
    exact List.mem_cons_of_mem event inRest
  refine ⟨?_, ?_, ?_⟩
  · refine agrees.holds.mono fun serving => serving.step stepped ?_ member
    rintro _ ⟨⟩
    have inQueue : event ∈ s.queue := queue ▸ List.mem_cons_self
    exact ⟨serving.attached event inQueue, fun configures => isBus configures.1⟩
  · intro idle other inRest
    exact agrees.quiet idle other (member other inRest)
  · intro asking asks
    rcases agrees.asked asking asks with empty | ⟨earlier, request, whole, bus, pending⟩
    · rw [empty] at queue
      cases queue
    · cases earlier with
      | nil =>
          cases queue.symm.trans whole
          exact absurd rfl isBus
      | cons first earlier =>
          cases queue.symm.trans whole
          refine .inr ⟨earlier, request, rfl, ?_, pending⟩
          intro other inEarlier
          exact bus other (List.mem_cons_of_mem _ inEarlier)

/-- Once the queue is empty only what the host knows counts. -/
theorem agrees_of_empty {n : Nat} {host : Host} {g : Gadget K}
    (holds : host.knows.Holds n (Serving n ⟨host, [], g⟩)) : Agrees n ⟨host, [], g⟩ where
  holds
  quiet := fun _ _ member => absurd member List.not_mem_nil
  asked := fun _ _ => .inl rfl

/-- As long as the host has something to ask for, it does not count on being served. -/
theorem Knowledge.Holds.of_request {n : Nat} {serving serving' : Prop} {knows : Knowledge}
    {request : UsbCtrlrequest} (holds : knows.Holds n serving)
    (asks : knows.request = some request) : knows.Holds n serving' := by
  cases knows with
  | configured blob => cases asks
  | _ => exact holds

/-- An answer teaches the host only what is so. -/
theorem holds_hear (few : config.numInterfaces.toNat ≤ 4) {knows : Knowledge}
    {request : UsbCtrlrequest} (asks : knows.request = some request) {g g' : Gadget K}
    {serving serving' : Prop} (holds : knows.Holds config.numInterfaces.toNat serving)
    (stepped : (gadgetOf os config).step g (.fetch (.ok (controlEvent request))) = some g')
    (configures : IsSetConfiguration request → g'.world ≠ g.world → serving')
    {answer : Answer} (heard : (newEntries g.world g'.world).findSome? answered = some answer) :
    (knows.hear answer).Holds config.numInterfaces.toNat serving' := by
  cases knows with
  | nothing =>
      obtain rfl : getConfiguration 9 = request := Option.some.inj asks
      obtain ⟨length, hears, total⟩ := hear_header few
      rw [hears_getConfiguration stepped heard]
      exact hears ▸ total
  | totalLength length =>
      obtain rfl : getConfiguration length = request := Option.some.inj asks
      rw [hears_getConfiguration stepped heard, hear_configuration holds]
      rfl
  | configuration blob =>
      obtain rfl : (UsbRawControlEvent.setConfiguration (blob.getD 5 0).toUInt16).ctrl = request :=
        Option.some.inj asks
      cases answer with
      | acknowledged =>
          refine ⟨holds, configures ⟨(by decide : (0x00 : UInt8) &&& usbTypeMask = _), rfl⟩ ?_⟩
          intro same
          rw [same, newEntries_of_log (List.append_nil _).symm] at heard
          cases heard
      | data bytes => trivial
      | stalled => trivial
  | configured blob => cases asks

/-- An event that the gadget fetches keeps the host and the gadget in agreement. -/
theorem Agrees.fetch (few : config.numInterfaces.toNat ≤ 4)
    (agrees : Agrees config.numInterfaces.toNat s)
    (stepped : s.step os config .fetch = some next) :
    Agrees config.numInterfaces.toNat next := by
  obtain ⟨⟨knows, asked⟩, queue, g⟩ := s
  cases queue with
  | nil => cases stepped
  | cons event rest =>
      simp only [Enumeration.step, Option.map_eq_some_iff] at stepped
      obtain ⟨g', moved, rfl⟩ := stepped
      have world := gadget_worldStep few moved
      by_cases control : event.typ = usbRawEventControl
      · rw [if_pos control]
        obtain ⟨rfl, asking, request, asks, rfl, pending⟩ := agrees.head rfl control
        obtain rfl : asked = some asking := asks
        have attached := not_isDetach_controlEvent request
        have unchanged : ∀ {host : Host}, ¬IsSetConfiguration request →
            knows.Holds config.numInterfaces.toNat
              (Serving config.numInterfaces.toNat ⟨host, [], g'⟩) := by
          intro host other
          refine agrees.holds.mono fun serving => serving.step world ?_ ?_
          · rintro _ ⟨⟩
            exact ⟨attached, fun configures => other configures.2⟩
          · exact fun _ member => absurd member List.not_mem_nil
        have serves : ∀ {host : Host}, IsSetConfiguration request → g'.world ≠ g.world →
            Serving config.numInterfaces.toNat ⟨host, [], g'⟩ := by
          intro host set moved
          rcases announced_configured few ⟨rfl, set⟩ world with same | ⟨ready, announced⟩
          · exact absurd same moved
          · exact ⟨ready, announced, fun _ member => absurd member List.not_mem_nil⟩
        cases heard : (newEntries g.world g'.world).findSome? answered with
        | none =>
            cases asking with
            | further =>
                exact agrees_of_empty (agrees.holds.of_request pending)
            | other =>
                exact agrees_of_empty (unchanged pending)
        | some answer =>
            cases asking with
            | further =>
                exact agrees_of_empty (holds_hear few pending agrees.holds moved serves heard)
            | other =>
                exact agrees_of_empty (unchanged pending)
      · rw [if_neg control]
        exact agrees.fetch_bus rfl control world

/-- A step of the other threads keeps the host and the gadget in agreement. -/
theorem Agrees.thread (few : config.numInterfaces.toNat ≤ 4)
    (agrees : Agrees config.numInterfaces.toNat s) {action : GadgetAction}
    (stepped : s.step os config (.thread action) = some next) :
    Agrees config.numInterfaces.toNat next := by
  simp only [Enumeration.step] at stepped
  split at stepped
  · cases stepped
  · next noEvent =>
      obtain ⟨g, moved, rfl⟩ := Option.map_eq_some_iff.mp stepped
      refine ⟨?_, agrees.quiet, agrees.asked⟩
      have world := gadget_worldStep few moved
      refine agrees.holds.mono fun serving => serving.step world ?_ fun _ => id
      rintro event rfl
      exact absurd trivial noEvent

/-- Every step keeps the host and the gadget in agreement. -/
theorem Agrees.step (few : config.numInterfaces.toNat ≤ 4)
    (agrees : Agrees config.numInterfaces.toNat s) {action : EnumerationAction}
    (stepped : (enumeration os config).step s action = some next) :
    Agrees config.numInterfaces.toNat next := by
  change s.step os config action = some next at stepped
  cases action with
  | bus event => exact agrees.bus stepped
  | further =>
      simp only [Enumeration.step, Option.ite_none_right_eq_some, Option.map_eq_some_iff] at stepped
      obtain ⟨idle, request, asks, rfl⟩ := stepped
      exact agrees.send idle asks
  | other request =>
      simp only [Enumeration.step, Option.ite_none_right_eq_some, Option.some.injEq] at stepped
      obtain ⟨⟨idle, other⟩, rfl⟩ := stepped
      exact agrees.send idle other
  | fetch => exact agrees.fetch few stepped
  | thread action => exact agrees.thread few stepped

/-- The host and the gadget agree after every run. -/
theorem agrees_of_run (few : config.numInterfaces.toNat ≤ 4) {kernel : K}
    {actions : List EnumerationAction}
    (runs : (enumeration os config).run (.new kernel) actions = some s) :
    Agrees config.numInterfaces.toNat s :=
  (enumeration os config).run_invariant (Agrees config.numInterfaces.toNat)
    (fun agrees stepped => Agrees.step few agrees stepped)
    (agrees_new config.numInterfaces.toNat kernel) runs

end Agreement

/-! ## Every run -/

/-- Whatever the threads and the bus do meanwhile, what the host knows is the blob the gadget
was built with, and a host that takes the device for configured finds every endpoint
it read of announced since the last reset. -/
theorem enumeration_agrees (os : Os K) (config : ConfigDescriptorSet)
    (few : config.numInterfaces.toNat ≤ 4) {kernel : K} {actions : List EnumerationAction}
    {s : Enumeration K} (runs : (enumeration os config).run (.new kernel) actions = some s) :
    (∀ length, s.host.knows = .totalLength length →
      length.toNat = (buildDescriptorBytes config).config.length) ∧
    (∀ blob, s.host.knows = .configuration blob ∨ s.host.knows = .configured blob →
      blob = (buildDescriptorBytes config).config) ∧
    ∀ blob, s.host.knows = .configured blob → s.gadget.world.shared.ready = true ∧
      ∃ header groups, Advertises config.numInterfaces.toNat blob header groups ∧
        ∀ group ∈ groups, ∀ record ∈ group.endpoints,
          record ∈ (enabledDescriptors (sinceDetach s.gadget.world.log)).map descriptorPart := by
  have holds := (agrees_of_run few runs).holds
  refine ⟨?_, ?_, ?_⟩
  · intro length knows
    rw [knows] at holds
    exact holds
  · rintro blob (knows | knows)
    · rw [knows] at holds
      exact holds
    · rw [knows] at holds
      exact holds.1
  · intro blob knows
    rw [knows] at holds
    obtain ⟨rfl, serving⟩ := holds
    refine ⟨serving.ready, _, _, configBlob_advertises (by omega), ?_⟩
    intro group isGroup record isEndpoint
    exact serving.announced record (List.mem_flatMap.mpr ⟨group, isGroup, isEndpoint⟩)

/-- A bus reset and three requests, each handled before the next is sent. -/
def enumerating : List EnumerationAction :=
  [.bus .reset, .fetch] ++ ([.further, .fetch] ++ ([.further, .fetch] ++ [.further, .fetch]))

/-- On a kernel that enables everything. -/
theorem enumeration_agrees_four : ∃ s : Enumeration Int32,
    (enumeration .counting fourSlots).run (.new 0) enumerating = some s ∧
      s.gadget.world.shared.ready = true ∧
      ∃ header groups, Advertises 4 (buildDescriptorBytes fourSlots).config header groups ∧
        ∀ group ∈ groups, ∀ record ∈ group.endpoints,
          record ∈ (enabledDescriptors (sinceDetach s.gadget.world.log)).map descriptorPart := by
  have reached : ((enumeration .counting fourSlots).run (.new 0) enumerating).map
      (fun s => s.host.knows) = some (.configured (buildDescriptorBytes fourSlots).config) := by
    decide +kernel
  obtain ⟨s, runs, knows⟩ := Option.map_eq_some_iff.mp reached
  obtain ⟨-, -, served⟩ := enumeration_agrees .counting fourSlots (by decide) runs
  exact ⟨s, runs, served _ knows⟩

/-! ## Getting there -/

section Progress

variable {os : Os K} {config : ConfigDescriptorSet} {g : Gadget K} {s : Enumeration K}

end Progress

end X360Gadget.Transport
