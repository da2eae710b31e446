import X360Gadget.Transport.Control

/-!
# What a SET_CONFIGURATION leaves behind

The loop over the slots asks the environment three questions for each slot. The
answers depend only on the environment's state when the request arrives, and the
table and the threads after the request are a function of them.
-/

namespace X360Gadget.Transport

open X360Gadget.Kernel X360Gadget.Std

variable {K : Type} (os : Os K)

/-! ## The environment's answers -/

/-- The environment after the IN endpoint of slot `i` was enabled. -/
def afterEpIn (k : K) (i : Nat) : K := (os.serve k (.epEnable (epInDesc i))).2

/-- The environment after both endpoints of slot `i` were enabled. -/
def afterEpOut (k : K) (i : Nat) : K := (os.serve (afterEpIn os k i) (.epEnable (epOutDesc i))).2

/-- The answer for the OUT endpoint of slot `i` when the loop reaches it. -/
def epOutReply (k : K) (i : Nat) : SyscallReply :=
  (os.serve (afterEpIn os k i) (.epEnable (epOutDesc i))).1

/-- The environment after an iteration for slot `i`. -/
def afterSlot (k : K) (i : Nat) : K :=
  match (epOutReply os k i).result with
  | .ok h => (os.serve (afterEpOut os k i) (.spawnEpOut (UInt8.ofNat i) h)).2
  | .error _ => afterEpOut os k i

/-- The environment when the loop reaches slot `i`. -/
def atSlot (k : K) : Nat → K
  | 0 => k
  | i + 1 => afterSlot os (atSlot k i) i

/-- The handle of the IN endpoint of slot `i`, if its `EP_ENABLE` succeeds. -/
def epInAnswer (k : K) (i : Nat) : Option Int32 :=
  (os.serve (atSlot os k i) (.epEnable (epInDesc i))).1.result.toOption

/-- The handle of the OUT endpoint of slot `i`, if its `EP_ENABLE` succeeds. -/
def epOutAnswer (k : K) (i : Nat) : Option Int32 :=
  (epOutReply os (atSlot os k i) i).result.toOption

/-- The reader thread of slot `i`, if its OUT endpoint is enabled in `k` and the
thread starts. -/
def startedReader (k : K) (i : Nat) : Option Reader :=
  (os.serve k (.epEnable (epOutDesc i))).1.result.toOption.bind fun h =>
    (os.serve (os.serve k (.epEnable (epOutDesc i))).2
      (.spawnEpOut (UInt8.ofNat i) h)).1.result.toOption.map fun _ =>
        { slot := UInt8.ofNat i, epHandle := h }

/-- The reader thread the request starts for slot `i`. -/
def spawnAnswer (k : K) (i : Nat) : Option Reader :=
  startedReader os (afterEpIn os (atSlot os k i) i) i

/-- One of the calls of the loop. -/
def IsSlotCall : Interaction → Prop
  | .called (.epEnable _) _ => True
  | .called (.spawnEpOut _ _) _ => True
  | _ => False

/-! ## One iteration -/

section Iteration

variable {os} {w : Ep0World K} {i : Nat}

@[simp] theorem recordEpIn_kernel : (recordEpIn os w i).kernel = afterEpIn os w.kernel i := by
  unfold recordEpIn
  split <;> rfl

@[simp] theorem recordEpIn_readers : (recordEpIn os w i).readers = w.readers := by
  unfold recordEpIn
  split <;> rfl

@[simp] theorem recordEpIn_epOut : (recordEpIn os w i).shared.epOut = w.shared.epOut := by
  unfold recordEpIn
  split <;> rfl

/-- The IN cell of the slot takes the answer, if there is one. -/
theorem recordEpIn_epIn (j : Nat) (bound : j < 4) : (recordEpIn os w i).shared.epIn[j] =
    if i = j then
      (w.reply os (.epEnable (epInDesc i))).result.toOption.or w.shared.epIn[j]
    else w.shared.epIn[j] := by
  unfold recordEpIn
  cases answer : (w.reply os (.epEnable (epInDesc i))).result with
  | ok h =>
      simp only [Ep0World.setEpIn_epIn, Ep0World.issue_shared, Vector.getElem_setIfInBounds]
      split <;> simp [Except.toOption]
  | error errno => simp [Except.toOption]

@[simp] theorem recordEpOut_epIn : (recordEpOut os w i).shared.epIn = w.shared.epIn := by
  unfold recordEpOut
  split <;> simp

/-- The OUT cell of the slot takes the answer, if there is one. -/
theorem recordEpOut_epOut (j : Nat) (bound : j < 4) : (recordEpOut os w i).shared.epOut[j] =
    if i = j then
      (w.reply os (.epEnable (epOutDesc i))).result.toOption.or w.shared.epOut[j]
    else w.shared.epOut[j] := by
  unfold recordEpOut
  cases answer : (w.reply os (.epEnable (epOutDesc i))).result with
  | ok h =>
      simp only [Ep0World.spawnEpOut_shared, Ep0World.setEpOut_epOut, Ep0World.issue_shared,
        Vector.getElem_setIfInBounds]
      split <;> simp [Except.toOption]
  | error errno => simp [Except.toOption]

/-- An iteration logs only calls of the loop. -/
theorem configureSlot_log (os : Os K) (w : Ep0World K) (i : Nat) : ∃ entries,
    (configureSlot os w i).log = w.log ++ entries ∧ ∀ entry ∈ entries, IsSlotCall entry := by
  have afterIn : ∃ reply,
      (recordEpIn os w i).log = w.log ++ [.called (.epEnable (epInDesc i)) reply] := by
    unfold recordEpIn
    split <;> exact ⟨_, rfl⟩
  obtain ⟨inReply, inLog⟩ := afterIn
  unfold configureSlot recordEpOut
  split
  · refine ⟨_, by rw [Ep0World.spawnEpOut_log, Ep0World.setEpOut_log, Ep0World.issue_log, inLog,
      List.append_assoc, List.append_assoc], ?_⟩
    simp [IsSlotCall]
  · refine ⟨_, by rw [Ep0World.issue_log, inLog, List.append_assoc], ?_⟩
    simp [IsSlotCall]

@[simp] theorem configureSlot_kernel :
    (configureSlot os w i).kernel = afterSlot os w.kernel i := by
  have same : (recordEpIn os w i).reply os (.epEnable (epOutDesc i)) =
      epOutReply os w.kernel i := by
    rw [Ep0World.reply, recordEpIn_kernel, epOutReply]
  rw [configureSlot, recordEpOut, afterSlot, same]
  cases (epOutReply os w.kernel i).result with
  | ok h => simp [afterEpOut]
  | error errno => simp [afterEpOut]

/-- A reader starts when the OUT endpoint and the thread both succeed. -/
theorem recordEpOut_readers :
    (recordEpOut os w i).readers = w.readers ++ (startedReader os w.kernel i).toList := by
  unfold recordEpOut startedReader
  cases answer : (w.reply os (.epEnable (epOutDesc i))).result with
  | error errno =>
      rw [Ep0World.reply] at answer
      simp [answer, Except.toOption]
  | ok h =>
      rw [Ep0World.reply] at answer
      simp only [Ep0World.spawnEpOut, Ep0World.reply, Ep0World.setEpOut_kernel,
        Ep0World.issue_kernel, answer, Except.toOption, Option.bind_some]
      cases (os.serve (os.serve w.kernel (.epEnable (epOutDesc i))).2
        (.spawnEpOut (UInt8.ofNat i) h)).1.result <;> simp

end Iteration

/-! ## The loop -/

section Loop

variable {os}

/-- The loop over the first `n` slots. -/
def configureSlots (os : Os K) (n : Nat) (w : Ep0World K) : Ep0World K :=
  (List.range n).foldl (configureSlot os) w

/-- One more slot is configured after the others. -/
theorem configureSlots_succ {n : Nat} {w : Ep0World K} :
    configureSlots os (n + 1) w = configureSlot os (configureSlots os n w) n := by
  rw [configureSlots, List.range_succ, List.foldl_concat]
  rfl

@[simp] theorem configureSlots_kernel {n : Nat} {w : Ep0World K} :
    (configureSlots os n w).kernel = atSlot os w.kernel n := by
  induction n with
  | zero => rfl
  | succ n ih => rw [configureSlots_succ, configureSlot_kernel, ih, atSlot]

/-- The loop logs only its own calls. -/
theorem configureSlots_log (os : Os K) (n : Nat) (w : Ep0World K) :
    ∃ entries, (configureSlots os n w).log = w.log ++ entries ∧
      ∀ entry ∈ entries, IsSlotCall entry := by
  induction n with
  | zero => exact ⟨[], by simp [configureSlots], by simp⟩
  | succ n ih =>
      obtain ⟨entries, log, slotCalls⟩ := ih
      obtain ⟨more, moreLog, moreCalls⟩ := configureSlot_log os (configureSlots os n w) n
      refine ⟨entries ++ more, by rw [configureSlots_succ, moreLog, log, List.append_assoc], ?_⟩
      intro entry member
      rcases List.mem_append.mp member with earlier | later
      · exact slotCalls entry earlier
      · exact moreCalls entry later

/-- Each IN cell takes the answer of its own slot, or keeps what it held. -/
theorem configureSlots_epIn {n : Nat} {w : Ep0World K} (j : Nat) (bound : j < 4) :
    (configureSlots os n w).shared.epIn[j] =
      if j < n then (epInAnswer os w.kernel j).or w.shared.epIn[j] else w.shared.epIn[j] := by
  induction n with
  | zero => rfl
  | succ n ih =>
      simp only [configureSlots_succ, configureSlot, recordEpOut_epIn, recordEpIn_epIn j bound, ih]
      by_cases reached : n = j
      · subst reached
        rw [if_pos rfl, if_neg (Nat.lt_irrefl n), if_pos (Nat.lt_succ_self n), epInAnswer,
          Ep0World.reply, configureSlots_kernel]
      · have same : j < n + 1 ↔ j < n := by omega
        simp only [if_neg reached, same]

/-- Each OUT cell takes the answer of its own slot, or keeps what it held. -/
theorem configureSlots_epOut {n : Nat} {w : Ep0World K} (j : Nat) (bound : j < 4) :
    (configureSlots os n w).shared.epOut[j] =
      if j < n then (epOutAnswer os w.kernel j).or w.shared.epOut[j] else w.shared.epOut[j] := by
  induction n with
  | zero => rfl
  | succ n ih =>
      simp only [configureSlots_succ, configureSlot, recordEpOut_epOut j bound, recordEpIn_epOut,
        ih]
      by_cases reached : n = j
      · subst reached
        rw [if_pos rfl, if_neg (Nat.lt_irrefl n), if_pos (Nat.lt_succ_self n), epOutAnswer,
          epOutReply, Ep0World.reply, recordEpIn_kernel, configureSlots_kernel]
      · have same : j < n + 1 ↔ j < n := by omega
        simp only [if_neg reached, same]

/-- The loop adds the readers that started, in slot order. -/
theorem configureSlots_readers {n : Nat} {w : Ep0World K} :
    (configureSlots os n w).readers =
      w.readers ++ (List.range n).filterMap (spawnAnswer os w.kernel) := by
  induction n with
  | zero => simp [configureSlots]
  | succ n ih =>
      rw [configureSlots_succ, configureSlot, recordEpOut_readers, recordEpIn_readers, ih,
        List.range_succ, List.filterMap_append, List.append_assoc]
      simp only [recordEpIn_kernel, configureSlots_kernel, List.filterMap_cons, List.filterMap_nil]
      have started : spawnAnswer os w.kernel n =
          startedReader os (afterEpIn os (atSlot os w.kernel n) n) n := rfl
      rw [started]
      cases startedReader os (afterEpIn os (atSlot os w.kernel n) n) n <;> rfl

/-- The loop leaves the mutex as it is. -/
theorem configureSlots_poisoned {n : Nat} {w : Ep0World K} :
    (configureSlots os n w).poisoned = w.poisoned := by
  induction n with
  | zero => rfl
  | succ n ih =>
      rw [configureSlots_succ, configureSlot, recordEpOut, recordEpIn]
      split <;> split <;> simp [ih]

end Loop

/-! ## The whole request -/

section Configured

variable {os} {n : Nat} {w : Ep0World K}

/-- An IN handle is the one that the kernel answers, or else the one from before. -/
theorem configured_epIn (j : Nat) (bound : j < 4) : (configured os n w).shared.epIn[j] =
    if j < n then (epInAnswer os w.kernel j).or w.shared.epIn[j] else w.shared.epIn[j] :=
  configureSlots_epIn j bound

/-- An OUT handle is the one that the kernel answers, or else the one from before. -/
theorem configured_epOut (j : Nat) (bound : j < 4) : (configured os n w).shared.epOut[j] =
    if j < n then (epOutAnswer os w.kernel j).or w.shared.epOut[j] else w.shared.epOut[j] :=
  configureSlots_epOut j bound

/-- Configuring adds a reader for each slot whose thread starts. -/
theorem configured_readers : (configured os n w).readers =
    w.readers ++ (List.range n).filterMap (spawnAnswer os w.kernel) :=
  configureSlots_readers

/-- The request logs the calls of the loop and then the three that finish it. -/
theorem configured_log (os : Os K) (n : Nat) (w : Ep0World K) :
    ∃ entries draw configure acknowledge,
    (configured os n w).log = w.log ++ (entries ++ [.called (.vbusDraw 0xFA) draw,
      .called .configure configure, .called (.ep0Read (.ofLength 0 .zeroed)) acknowledge]) ∧
      ∀ entry ∈ entries, IsSlotCall entry := by
  obtain ⟨entries, log, slotCalls⟩ := configureSlots_log os n w
  obtain ⟨draw, configure, acknowledge, finished⟩ :=
    finishConfiguration_log os (configureSlots os n w)
  refine ⟨entries, draw, configure, acknowledge, ?_, slotCalls⟩
  rw [← List.append_assoc, ← log]
  exact finished

/-- The request itself is logged only when the event is over. -/
theorem configured_handledEvents :
    handledEvents (configured os n w).log = handledEvents w.log := by
  obtain ⟨entries, draw, configure, acknowledge, log, slotCalls⟩ := configured_log os n w
  have quiet : handledEvents entries = [] := by
    refine List.filterMap_eq_nil_iff.mpr fun entry member => ?_
    have slotCall := slotCalls entry member
    cases entry with
    | called call reply => rfl
    | handled event => cases slotCall
  rw [log, handledEvents_append, handledEvents_append, quiet]
  simp

/-- Configuring does not poison the mutex. -/
theorem configured_poisoned : (configured os n w).poisoned = w.poisoned :=
  configureSlots_poisoned

@[simp] theorem configured_ready : (configured os n w).shared.ready = true := rfl

end Configured

end X360Gadget.Transport
