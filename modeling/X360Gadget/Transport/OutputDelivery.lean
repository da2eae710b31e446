import X360Gadget.Transport.Gadget

/-!
# Output reports on the whole transport

The ep0 thread and the writes of the caller never touch the channel or the
buffers, so the output side of any run is a run of the pipeline: a read that
fails or overruns its buffer sends nothing, every other read is a packet.
-/

namespace X360Gadget.Transport

open X360Gadget.Descriptors X360Gadget.Kernel X360Gadget.Protocol X360Gadget.Std

variable {K : Type}

/-- The packet of a completed read, unless its length overruns the buffer. -/
def packet? (n : Int32) (data : IoBuffer 32) : Option OutRead :=
  if n.toInt.toNat ≤ 32 then
    some (.packet (data.bytes.take n.toInt.toNat) (by simp))
  else
    none

/-- A step as a step of the output pipeline. -/
def GadgetAction.output? : GadgetAction → Option PipelineAction
  | .epOut reader (.ok (n, data)) => (packet? n data).map (.epOut reader.slot)
  | .poll kind slot => some (.poll kind slot)
  | _ => none

/-- The output side of a run. -/
def outputActions (taken : List GadgetAction) : List PipelineAction :=
  taken.filterMap GadgetAction.output?

/-- An iteration sends exactly the report of its packet. -/
theorem epOutIteration_send_iff {n : Int32} {data : IoBuffer 32} {report : OutputReport} :
    epOutIteration (.ok (n, data)) = .ok (.send report) ↔
      ∃ read, packet? n data = some read ∧ read.report = some report := by
  unfold packet?
  by_cases fits : n.toInt.toNat ≤ 32
  · simp only [if_pos fits, Option.some.injEq, exists_eq_left', OutRead.report]
    by_cases positive : 0 < n.toInt
    · simp only [epOutIteration, if_pos positive, if_pos fits]
      cases OutputReport.fromBytes (data.bytes.take n.toInt.toNat) <;> simp
    · have empty : n.toInt.toNat = 0 := Int.toNat_eq_zero.mpr (Int.not_lt.mp positive)
      simp only [epOutIteration, if_neg positive, empty, List.take_zero]
      constructor
      · intro again
        cases again
      · intro parsed
        cases parsed
  · simp only [if_neg fits, reduceCtorEq, false_and, exists_false, iff_false]
    intro sent
    by_cases positive : 0 < n.toInt
    · simp only [epOutIteration, if_pos positive, if_neg fits] at sent
      cases sent
    · simp only [epOutIteration, if_neg positive] at sent
      cases sent

/-- A read that makes the loop send nothing changes nothing on the output side. -/
theorem output?_of_silent {reader : Reader} {read : Except Errno (Int32 × IoBuffer 32)}
    {out : OutputBuffers} (silent : ∀ report, epOutIteration read ≠ .ok (.send report)) :
    (GadgetAction.epOut reader read).output?.elim out (pipelineStep out) = out := by
  match read with
  | .error errno => rfl
  | .ok (n, data) =>
      cases packet : packet? n data with
      | none => simp [GadgetAction.output?, packet]
      | some received =>
          have unsent : received.report = none := by
            cases parsed : received.report with
            | none => rfl
            | some report =>
                exact absurd (epOutIteration_send_iff.mpr ⟨received, packet, parsed⟩)
                  (silent report)
          simp [GadgetAction.output?, packet, pipelineStep_epOut, unsent]

section Steps

variable {os : Os K} {numInterfaces : UInt8} {desc : DescriptorBytes} {g next : Gadget K}

/-- While the receiver lives, an iteration changes the output side as its packet does. -/
theorem stepEpOut_output {reader : Reader} {read : Except Errno (Int32 × IoBuffer 32)}
    (opened : g.closed = false) :
    (stepEpOut g reader read).output =
      (GadgetAction.epOut reader read).output?.elim g.output (pipelineStep g.output) := by
  unfold stepEpOut
  split
  · next report sent =>
      match read with
      | .error errno =>
          simp only [epOutIteration] at sent
          split at sent <;> cases sent
      | .ok (n, data) =>
          obtain ⟨received, packet, parsed⟩ := epOutIteration_send_iff.mp sent
          simp [GadgetAction.output?, packet, pipelineStep_epOut, parsed, opened]
  · next again => exact (output?_of_silent (by simp [again])).symm
  · next exit => exact (output?_of_silent (by simp [exit])).symm
  · next panicked => exact (output?_of_silent (by simp [panicked])).symm

/-- A step that leaves the transport open is a step of the pipeline or none at all. -/
theorem output_step {action : GadgetAction}
    (stepped : (gadget os numInterfaces desc).step g action = some next)
    (opened : next.closed = false) :
    g.closed = false ∧ next.output = action.output?.elim g.output (pipelineStep g.output) := by
  cases gadget_step stepped with
  | fetch result alive =>
      have kept : (stepFetch os numInterfaces desc g result).closed = g.closed ∧
          (stepFetch os numInterfaces desc g result).output = g.output := by
        unfold stepFetch
        split <;> exact ⟨rfl, rfl⟩
      exact ⟨kept.1.symm.trans opened, kept.2⟩
  | epOut reader read live =>
      have kept : (stepEpOut g reader read).closed = g.closed := by
        unfold stepEpOut
        split
        · split <;> rfl
        · rfl
        · rfl
        · rfl
      have before : g.closed = false := kept.symm.trans opened
      exact ⟨before, stepEpOut_output before⟩
  | lookup slot report idle =>
      refine ⟨idle.1, ?_⟩
      unfold stepLookup
      split <;> rfl
  | epWrite write pending => exact ⟨opened, rfl⟩
  | poll kind slot idle => exact ⟨idle.1, rfl⟩
  | waitReady idle released => exact ⟨opened, rfl⟩
  | writeDescriptor idle => exact ⟨opened, rfl⟩
  | drop idle => cases opened

/-- Until the transport is closed its output side is a run of the pipeline. -/
theorem output_of_run {kernel : K} {taken : List GadgetAction}
    (runs : (gadget os numInterfaces desc).run (.new kernel) taken = some g)
    (opened : g.closed = false) : g.output = pipeline (outputActions taken) := by
  induction taken using List.reverseRecOn generalizing g with
  | nil =>
      cases runs
      rfl
  | append_singleton taken action ih =>
      obtain ⟨before, runsBefore, stepped⟩ := (Machine.run_concat_eq_some _).mp runs
      obtain ⟨openedBefore, output⟩ := output_step stepped opened
      have extended : outputActions (taken ++ [action]) =
          outputActions taken ++ action.output?.toList := by
        rw [outputActions, outputActions, List.filterMap_append]
        cases projected : action.output? <;> simp [projected]
      rw [output, ih runsBefore openedBefore, extended]
      cases action.output? with
      | none => rw [Option.toList_none, List.append_nil, Option.elim_none]
      | some step =>
          rw [Option.toList_some, Option.elim_some, pipeline, pipeline, List.foldl_concat]

/-- In every run of the whole transport, a poll of a slot returns exactly the last
report of its slot and kind sent since the poll before. -/
theorem poll_of_run {kernel : K} {taken : List GadgetAction} {kind : ReportKind} {slot : UInt8}
    (runs : (gadget os numInterfaces desc).run (.new kernel) taken = some g)
    (opened : g.closed = false) (inRange : slot.toNat < 4) :
    ∃ result after, kind.poll g.output slot = .ok (result, after) ∧ ∀ report,
      result = some report ↔ ∃ sent, LastSent kind (outputActions taken ++ [.poll kind slot])
        slot report sent (outputActions taken).length := by
  have isPoll : (outputActions taken ++ [.poll kind slot])[(outputActions taken).length]? =
      some (.poll kind slot) := List.getElem?_concat_length
  have returned := poll_lastSent isPoll inRange
  rw [List.take_left] at returned
  rw [output_of_run runs opened]
  exact returned

end Steps

end X360Gadget.Transport
