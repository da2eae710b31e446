import X360Gadget.Transport.Lifetime
import X360Gadget.Transport.Reopening

/-!
# While `drop` waits

`drop` closes the descriptor first and then waits for the ep0 thread. Closing ends no
thread: the ep0 thread goes on with the event it is at and with every event it still
gets, only that its calls fail from then on. `drop_waits` says which steps let `drop`
return, which calls still reach the device and which readers can be running.
-/

namespace X360Gadget.Transport

open X360Gadget.Descriptors X360Gadget.Kernel X360Gadget.Std

variable {K D : Type}

/-! ## What got through since a moment -/

/-- The answers to the calls on the descriptor. -/
def deviceReplies (log : List Interaction) : List SyscallReply :=
  log.filterMap fun
    | .called call reply => if call.onDevice then some reply else none
    | .handled _ => none

/-- An EP_ENABLE of these entries gave the reader its endpoint. -/
def Backed (entries : List Interaction) (reader : Reader) : Prop :=
  ∃ desc reply, .called (.epEnable desc) reply ∈ entries ∧ reply.result = .ok reader.epHandle

/-- What happened up to a later moment: only the first `m` calls on the descriptor got
through, and a reader that is new reads an endpoint that one of them enabled. -/
structure Progress (m : Nat) (entries : List Interaction) (before : Ep0World K)
    (after : Ep0World D) : Prop where
  log : after.log = before.log ++ entries
  refused : ∀ reply ∈ (deviceReplies entries).drop m, reply = .ebadf
  readers : ∀ reader ∈ after.readers, reader ∈ before.readers ∨ Backed entries reader

section Progress

variable {E : Type} {m : Nat} {entries more : List Interaction} {first : Ep0World K}
  {second : Ep0World D} {third : Ep0World E}

/-- The replies of the device in a log are those of its parts in order. -/
theorem deviceReplies_append :
    deviceReplies (entries ++ more) = deviceReplies entries ++ deviceReplies more :=
  List.filterMap_append

/-- A call has a reply of the device where it is made on the device. -/
theorem deviceReplies_called (call : Syscall) (reply : SyscallReply) :
    deviceReplies [.called call reply] = if call.onDevice then [reply] else [] := by
  cases onDevice : call.onDevice <;> simp [deviceReplies, onDevice]

/-- A reader that a log backs is backed by every log that holds more. -/
theorem Backed.mono {reader : Reader} (backed : Backed entries reader)
    (kept : ∀ entry ∈ entries, entry ∈ more) : Backed more reader := by
  obtain ⟨desc, reply, member, handle⟩ := backed
  exact ⟨desc, reply, kept _ member, handle⟩

/-- The meter runs on from one part to the next. -/
theorem Progress.trans (earlier : Progress m entries first second)
    (later : Progress (m - (deviceReplies entries).length) more second third) :
    Progress m (entries ++ more) first third where
  log := by rw [later.log, earlier.log, List.append_assoc]
  refused := by
    intro reply member
    rw [deviceReplies_append, List.drop_append] at member
    rcases List.mem_append.mp member with before | after
    · exact earlier.refused reply before
    · exact later.refused reply after
  readers := by
    intro reader running
    rcases later.readers reader running with before | backed
    · rcases earlier.readers reader before with known | backed
      · exact .inl known
      · exact .inr (backed.mono fun _ => List.mem_append_left _)
    · exact .inr (backed.mono fun _ => List.mem_append_right _)

end Progress

/-! ## Calls against a meter -/

/-- What happened since a world, with the calls that got through charged to the meter. -/
def Since (meter : K → Nat) (before after : Ep0World K) : Prop :=
  ∃ entries, Progress (meter before.kernel) entries before after ∧
    meter after.kernel = meter before.kernel - (deviceReplies entries).length

section Since

variable {os : Os K} {meter : K → Nat} {v w w' : Ep0World K}

/-- Where nothing happens nothing is charged. -/
theorem since_refl (meter : K → Nat) (w : Ep0World K) : Since meter w w :=
  ⟨[], ⟨(List.append_nil _).symm, fun _ member => absurd member (by simp [deviceReplies]),
    fun _ => .inl⟩, rfl⟩

/-- The meter runs on from one part to the next. -/
theorem Since.trans (earlier : Since meter v w) (later : Since meter w w') : Since meter v w' := by
  obtain ⟨entries, progress, spent⟩ := earlier
  obtain ⟨more, continued, spentMore⟩ := later
  rw [spent] at continued
  refine ⟨entries ++ more, progress.trans continued, ?_⟩
  rw [spentMore, spent, deviceReplies_append, List.length_append, Nat.sub_sub]

/-- What neither calls nor starts a thread changes nothing here. -/
theorem Since.kept (since : Since meter v w) (kernel : w'.kernel = w.kernel)
    (log : w'.log = w.log) (readers : ∀ reader ∈ w'.readers, reader ∈ w.readers) :
    Since meter v w' := by
  obtain ⟨entries, progress, spent⟩ := since
  exact ⟨entries, ⟨log.trans progress.log, progress.refused,
    fun reader running => progress.readers reader (readers reader running)⟩, kernel ▸ spent⟩

/-- A call on the descriptor gets through while there is something left on the meter. -/
theorem since_issue (metered : Metered os meter) (w : Ep0World K) (call : Syscall) :
    Since meter w (w.issue os call) := by
  refine ⟨[.called call (w.reply os call)], ⟨rfl, ?_, fun _ => .inl⟩, ?_⟩
  · intro reply member
    rw [deviceReplies_called] at member
    split at member
    · next onDevice =>
        cases left : meter w.kernel with
        | zero =>
            rw [left, List.drop_zero, List.mem_singleton] at member
            exact member.trans (metered.refuses onDevice left)
        | succ more =>
            rw [left, List.drop_succ_cons, List.drop_nil] at member
            cases member
    · rw [List.drop_nil] at member
      cases member
  · rw [Ep0World.issue_kernel, metered.spends, deviceReplies_called]
    split <;> rfl

/-- Recording a handled event charges nothing. -/
theorem since_markHandled (event : UsbRawControlEvent) (w : Ep0World K) :
    Since meter w (markHandled event w) :=
  ⟨[.handled event], ⟨rfl, fun _ member => absurd (List.mem_of_mem_drop member) List.not_mem_nil,
    fun _ => .inl⟩, rfl⟩

/-- Recording an IN endpoint charges the meter for its call. -/
theorem since_recordEpIn (metered : Metered os meter) (w : Ep0World K) (i : Nat) :
    Since meter w (recordEpIn os w i) := by
  have called := since_issue metered w (.epEnable (epInDesc i))
  unfold recordEpIn
  split
  · exact called.kept rfl rfl fun _ => id
  · exact called

/-- A reader that is started got its endpoint from the EP_ENABLE before it. -/
theorem since_recordEpOut (metered : Metered os meter) (w : Ep0World K) (i : Nat) :
    Since meter w (recordEpOut os w i) := by
  have called := since_issue metered w (.epEnable (epOutDesc i))
  unfold recordEpOut
  split
  · next handle enabled =>
      let opened := (w.issue os (.epEnable (epOutDesc i))).setEpOut i handle
      have recorded : Since meter w opened := called.kept rfl rfl fun _ => id
      obtain ⟨entries, progress, spent⟩ :=
        recorded.trans (since_issue metered opened (.spawnEpOut (.ofNat i) handle))
      have grown : w.log ++ entries = w.log ++
          [.called (.epEnable (epOutDesc i)) (w.reply os (.epEnable (epOutDesc i))),
            .called (.spawnEpOut (.ofNat i) handle)
              (opened.reply os (.spawnEpOut (.ofNat i) handle))] := by
        rw [← progress.log, Ep0World.issue_log, Ep0World.setEpOut_log, Ep0World.issue_log,
          List.append_assoc]
        rfl
      change Since meter w (opened.spawnEpOut os (.ofNat i) handle)
      unfold Ep0World.spawnEpOut
      split
      · refine ⟨entries, ⟨progress.log, progress.refused, ?_⟩, spent⟩
        intro reader running
        rcases List.mem_append.mp running with before | isNew
        · exact progress.readers reader before
        · rw [List.mem_singleton.mp isNew, List.append_cancel_left grown]
          exact .inr ⟨_, _, List.mem_cons_self, enabled⟩
      · exact ⟨entries, progress, spent⟩
  · exact called

/-- Configuring the slots charges the meter for each call. -/
theorem since_configured (metered : Metered os meter) (n : Nat) (w : Ep0World K) :
    Since meter w (configured os n w) := by
  have looped : Since meter w (configureSlots os n w) := by
    induction n with
    | zero => exact since_refl meter w
    | succ n ih =>
        rw [configureSlots_succ]
        exact (ih.trans (since_recordEpIn metered _ n)).trans (since_recordEpOut metered _ n)
  have drawn := looped.trans (since_issue metered _ (.vbusDraw 0xFA))
  have configured := drawn.trans (since_issue metered _ .configure)
  have acknowledged :=
    configured.trans (since_issue metered _ (.ep0Read (.ofLength 0 .zeroed)))
  exact acknowledged.kept rfl rfl fun _ => id

/-- Every step of a thread is charged to the meter. -/
theorem since_worldStep {n : Nat} {action : GadgetAction} (metered : Metered os meter)
    (stepped : WorldStep os n w action w') : Since meter w w' := by
  have start : Since meter w w := since_refl meter w
  cases stepped with
  | handled event v outcome =>
      have handled : Since meter w v := by
        cases outcome with
        | ignored attached other => exact start
        | detached detach sound => exact start.kept rfl rfl fun _ => id
        | configured configures sound => exact since_configured metered n w
        | answered attached other call reply => exact since_issue metered w call
      exact handled.trans (since_markHandled event v)
  | panicked event blocked => exact start
  | readerEnded reader read => exact start.kept rfl rfl fun _ => List.mem_of_mem_erase
  | poisoned slot report => exact start.kept rfl rfl fun _ => id
  | wrote io => exact since_issue metered w (.epWrite io)
  | unchanged action noEvent => exact start

end Since

/-! ## Without a descriptor -/

section Refused

variable {os : Os K}

/-- A call on the device is refused with EBADF. -/
theorem result_refusing {call : Syscall} (onDevice : call.onDevice) (kernel : K) :
    ((refusing os).serve kernel call).1.result = .error 9 := by
  rw [(metered_refusing os).refuses onDevice rfl, result_ebadf]

/-- The loop over the slots gets no endpoint and so starts no thread. -/
theorem atSlot_refusing (kernel : K) (i : Nat) : atSlot (refusing os) kernel i = kernel := by
  induction i with
  | zero => rfl
  | succ i ih =>
      have answer : (epOutReply (refusing os) (atSlot (refusing os) kernel i) i).result =
          .error 9 := result_refusing rfl _
      rw [atSlot, afterSlot, answer]
      exact ih

/-- No step changes the state of the device. -/
theorem kernel_of_worldStep_refusing {n : Nat} {w w' : Ep0World K} {action : GadgetAction}
    (stepped : WorldStep (refusing os) n w action w') : w'.kernel = w.kernel := by
  cases stepped with
  | handled event v outcome =>
      cases outcome with
      | configured configures sound =>
          have looped : (configureSlots (refusing os) n w).kernel = w.kernel := by
            rw [configureSlots_kernel, atSlot_refusing]
          exact looped
      | answered attached other call reply =>
          have onDevice : call.onDevice = true := by
            cases call <;> first | rfl | cases reply
          change ((refusing os).serve w.kernel call).2 = w.kernel
          simp only [refusing, if_pos onDevice]
      | _ => rfl
  | _ => rfl

end Refused

/-! ## The threads of a closed transport -/

section Runs

variable {os : Os K} {numInterfaces : UInt8} {desc : DescriptorBytes} {g final : Gadget K}
  {steps : List GadgetAction}

/-- A run of the gadget charges the meter for each call. -/
theorem since_of_run {meter : K → Nat} (metered : Metered os meter)
    (few : numInterfaces.toNat ≤ 4)
    (runs : (gadget os numInterfaces desc).run g steps = some final) :
    Since meter g.world final.world :=
  (gadget os numInterfaces desc).run_invariant (fun next => Since meter g.world next.world)
    (fun since stepped => since.trans (since_worldStep metered (gadget_worldStep few stepped)))
    (since_refl meter g.world) runs

/-- A run after the close leaves the kernel as it is. -/
theorem kernel_of_run_refusing (few : numInterfaces.toNat ≤ 4)
    (runs : (gadget (refusing os) numInterfaces desc).run g steps = some final) :
    final.world.kernel = g.world.kernel :=
  (gadget (refusing os) numInterfaces desc).run_invariant
    (fun next => next.world.kernel = g.world.kernel)
    (fun same stepped => (kernel_of_worldStep_refusing (gadget_worldStep few stepped)).trans same)
    rfl runs

/-- Without a call of the owner the mutex stays as sound as it is. -/
theorem poisoned_of_run (few : numInterfaces.toNat ≤ 4)
    (quiet : ∀ step ∈ steps, ¬IsCall step)
    (runs : (gadget os numInterfaces desc).run g steps = some final) :
    final.world.poisoned = g.world.poisoned := by
  induction steps generalizing g with
  | nil =>
      cases runs
      rfl
  | cons step rest ih =>
      rw [Machine.run_cons, Option.bind_eq_some_iff] at runs
      obtain ⟨next, stepped, remaining⟩ := runs
      rw [ih (fun other member => quiet other (List.mem_cons_of_mem step member)) remaining]
      refine poisoned_of_worldStep (gadget_worldStep few stepped) ?_
      rintro slot report rfl
      exact quiet _ List.mem_cons_self trivial

/-- Without a call of the owner the ep0 thread ends with a step that is a last one. -/
theorem ended_iff_of_run (few : numInterfaces.toNat ≤ 4)
    (quiet : ∀ step ∈ steps, ¬IsCall step)
    (runs : (gadget os numInterfaces desc).run g steps = some final) :
    final.ep0Alive = false ↔ g.ep0Alive = false ∨
      ∃ step ∈ steps, EndsEp0 desc (g.world.poisoned = true) step := by
  induction steps using List.reverseRecOn generalizing final with
  | nil =>
      cases runs
      exact (or_iff_left (by rintro ⟨step, ⟨⟩, -⟩)).symm
  | append_singleton earlier last ih =>
      obtain ⟨middle, reached, stepped⟩ := Machine.run_concat_eq_some _ |>.mp runs
      have quietBefore : ∀ step ∈ earlier, ¬IsCall step := fun step member =>
        quiet step (List.mem_append_left _ member)
      rw [ep0Alive_step_iff few stepped, ih quietBefore reached,
        poisoned_of_run few quietBefore reached, or_assoc]
      refine or_congr_right ?_
      simp only [List.mem_append, List.mem_singleton, or_and_right, exists_or, exists_eq_left]

end Runs

/-! ## The close itself -/

/-- The calls of the event in progress that still get through. -/
def callsLeft (within : Option (UsbRawControlEvent × Nat)) : Nat := within.elim 0 Prod.snd

/-- What the end of the event in progress does to the gadget. -/
structure Closes (os : Os K) (o : Opened K) (within : Option (UsbRawControlEvent × Nat)) :
    Prop where
  progress : ∃ entries, Progress (callsLeft within) entries o.gadget.world
    (o.closing os within).world
  poisoned : (o.closing os within).world.poisoned = o.gadget.world.poisoned
  ended : (o.closing os within).ep0Alive = false ↔ o.gadget.ep0Alive = false ∨
    ∃ event ∈ within, EndsEp0 (buildDescriptorBytes o.config)
      (o.gadget.world.poisoned = true) (.fetch (.ok event.1))

/-- A close, between two events or within one, does what `Closes` says. -/
theorem closes_of_running {os : Os K} {o : Opened K}
    {within : Option (UsbRawControlEvent × Nat)} (few : o.config.numInterfaces.toNat ≤ 4)
    (running : within.isSome → o.gadget.ep0Alive = true) : Closes os o within := by
  cases within with
  | none =>
      refine ⟨?_, rfl, ?_⟩
      · obtain ⟨entries, progress, -⟩ := since_refl (fun _ => 0) o.gadget.world
        exact ⟨entries, progress⟩
      · exact (or_iff_left (by rintro ⟨event, ⟨⟩, -⟩)).symm
  | some straddling =>
      obtain ⟨event, calls⟩ := straddling
      let metered := o.gadget.on (o.gadget.world.kernel, calls)
      have alive : metered.ep0Alive = true := running rfl
      have stepped : (gadget (closingAfter os) o.config.numInterfaces
          (buildDescriptorBytes o.config)).step metered (.fetch (.ok event)) = some
            (stepFetch (closingAfter os) o.config.numInterfaces (buildDescriptorBytes o.config)
              metered (.ok event)) := if_pos alive
      have moved := gadget_worldStep few stepped
      obtain ⟨entries, progress, -⟩ := since_worldStep (metered_closingAfter os) moved
      have sound := poisoned_of_worldStep moved (by rintro slot report ⟨⟩)
      refine ⟨⟨entries, progress.log, progress.refused, progress.readers⟩, sound, ?_⟩
      refine (ep0Alive_step_iff few stepped).trans (or_congr_right ?_)
      simp only [Option.mem_def, Option.some.injEq, exists_eq_left']
      rfl

/-! ## From the close to the end -/

/-- After a close everything that is refused at once is refused also later. -/
theorem Progress.mono {m : Nat} {entries : List Interaction} {before : Ep0World K}
    {after : Ep0World D} (progress : Progress 0 entries before after) :
    Progress m entries before after where
  log := progress.log
  refused := fun reply member => progress.refused reply (List.mem_of_mem_drop member)
  readers := progress.readers

section Drop

variable {os : Os K} {before after : List (TransportsAction K)} {middle s : Transports K} {i : Nat}
  {o o' : Opened K} {within : Option (UsbRawControlEvent × Nat)}

/-- A run with a close in it, from the close on. -/
theorem runs_closed
    (runs : (transports os).run [] (before ++ .close i within :: after) = some s)
    (settled : (transports os).EachStep TakesOver [] (before ++ .close i within :: after))
    (reached : (transports os).run [] before = some middle) (found : middle[i]? = some o) :
    (within.isSome → o.gadget.ep0Alive = true) ∧ ∃ start, Orderly start ∧
      start[i]? = some { o with tenure := .closing, gadget := o.closing os within } ∧
      ((transports os).guarded TakesOver).run start after = some s := by
  have guarded := Machine.run_guarded_iff.mpr ⟨runs, settled⟩
  rw [Machine.run_append, Option.bind_eq_some_iff] at guarded
  obtain ⟨state, toMiddle, rest⟩ := guarded
  obtain rfl : middle = state :=
    Option.some.inj (reached.symm.trans (Machine.run_guarded_iff.mp toMiddle).1)
  rw [Machine.run_cons, Option.bind_eq_some_iff] at rest
  obtain ⟨start, closed, rest⟩ := rest
  have orderly : Orderly middle := ((transports os).guarded TakesOver).run_invariant Orderly
    Orderly.step orderly_nil toMiddle
  have orderlyStart := orderly.step closed
  cases transports_step orderly closed with
  | close i within other foundOther live running =>
      cases found.symm.trans foundOther
      have bound := (List.getElem?_eq_some_iff.mp found).1
      exact ⟨running, _, orderlyStart, List.getElem?_set_self bound, rest⟩
  | moved action j other step g foundOther current isOwn => cases isOwn

/-- While `drop` waits for its ep0 thread, of the calls with which the thread handles
events only those get through that it had begun in the event it was at, the state of the
device stays as that event left it, and a reader is running only if it did before or such
a call enabled its endpoint. `drop` returns once that event or a later one panics the
thread or `EVENT_FETCH` fails for good, and at no event that is merely handled. -/
theorem drop_waits (few : o.config.numInterfaces.toNat ≤ 4)
    (runs : (transports os).run [] (before ++ .close i within :: after) = some s)
    (settled : (transports os).EachStep TakesOver [] (before ++ .close i within :: after))
    (reached : (transports os).run [] before = some middle) (found : middle[i]? = some o)
    (found' : s[i]? = some o') (waiting : o'.tenure = .closing) :
    ((∃ next, (transports os).step s (.joined i) = some next) ↔ o.gadget.ep0Alive = false ∨
        (∃ event ∈ within, EndsEp0 (buildDescriptorBytes o.config)
          (o.gadget.world.poisoned = true) (.fetch (.ok event.1))) ∨
        ∃ step ∈ after.filterMap (own i), EndsEp0 (buildDescriptorBytes o.config)
          (o.gadget.world.poisoned = true) step) ∧
      Progress (callsLeft within) (newEntries o.gadget.world o'.gadget.world) o.gadget.world
        o'.gadget.world ∧
      o'.gadget.world.kernel = (o.closing os within).world.kernel := by
  obtain ⟨running, start, orderly, foundStart, rest⟩ := runs_closed runs settled reached found
  have closes : Closes os o within := closes_of_running few running
  obtain ⟨last, foundLast, -, -, -, isolated⟩ := at_of_run orderly foundStart rest
  cases found'.symm.trans foundLast
  obtain ⟨-, asked, ran⟩ := isolated waiting nofun
  have quiet : ∀ step ∈ after.filterMap (own i), ¬IsCall step := by
    intro step member isCall
    cases asked step member isCall
  refine ⟨?_, ?_, kernel_of_run_refusing few ran⟩
  · have ended := ended_iff_of_run few quiet ran
    rw [closes.ended, closes.poisoned, or_assoc] at ended
    rw [← ended]
    change (∃ next, s.step os (.joined i) = some next) ↔ _
    simp only [Transports.step, found', Option.bind_some, Option.ite_none_right_eq_some,
      Option.some.injEq]
    constructor
    · rintro ⟨next, ⟨-, ended⟩, -⟩
      exact ended
    · intro ended
      exact ⟨_, ⟨waiting, ended⟩, rfl⟩
  · obtain ⟨entries, progress⟩ := closes.progress
    obtain ⟨more, later, -⟩ := since_of_run (metered_refusing os) few ran
    have whole := progress.trans later.mono
    rw [newEntries_of_log whole.log]
    exact whole

end Drop

/-- The descriptor is closed while the ep0 thread handles a SET_CONFIGURATION, whose two
EP_ENABLEs still get through. A RESET comes, and then EBADF. -/
def closedWithin : List (TransportsAction Int32) :=
  [.close 0 (some (.setConfiguration 1, 2)), .fetch 0 0 (.ok .reset), .fetch 0 0 (.error 9)]

/-- The reader of the endpoint that was enabled runs, and `drop` can return. -/
theorem drop_waits_within : ∃ s,
    (transports .counting).run [] (.new 3 oneSlot 0 :: closedWithin) = some s ∧
      s.flatMap (fun o => o.gadget.world.readers) = [⟨0, 1⟩] ∧
      ∃ next, (transports .counting).step s (.joined 0) = some next := by
  have start : ((transports .counting).run [] [.new 3 oneSlot 0]).map
      (fun s => (s[0]?).map fun o => o.config.numInterfaces) = some (some 1) := by
    decide +kernel
  obtain ⟨middle, reached, there⟩ := Option.map_eq_some_iff.mp start
  obtain ⟨o, found, one⟩ := Option.map_eq_some_iff.mp there
  have ran : (((transports .counting).guarded TakesOver).run []
      (.new 3 oneSlot 0 :: closedWithin)).map (fun s => ((s[0]?).map Opened.tenure,
        s.flatMap fun o => o.gadget.world.readers)) = some (some .closing, [⟨0, 1⟩]) := by
    decide +kernel
  obtain ⟨s, ran, shape⟩ := Option.map_eq_some_iff.mp ran
  obtain ⟨there, readers⟩ := Prod.mk.injEq _ _ _ _ ▸ shape
  obtain ⟨o', found', waiting⟩ := Option.map_eq_some_iff.mp there
  obtain ⟨runs, settled⟩ := Machine.run_guarded_iff.mp ran
  have few : o.config.numInterfaces.toNat ≤ 4 := by
    rw [one]
    decide
  obtain ⟨returns, -, -⟩ := drop_waits few runs settled reached found found' waiting
  refine ⟨s, runs, readers, returns.mpr ?_⟩
  exact .inr (.inr ⟨.fetch (.error 9), .tail _ (.head _), (by decide : (9 : Errno) ≠ eagain)⟩)

end X360Gadget.Transport
