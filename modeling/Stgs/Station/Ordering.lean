/-
# Station.Ordering -- any number of decoders, one order

The sequential reference takes the submitted vectors one by one: it decodes a
vector, exports and records the frame or records the rejection, and counts.  It has
no threads, queues, numbers or map.

`pipeline_deterministic`: whatever the interleaving, the pipeline has exported and
recorded a prefix of what the reference does, also after a failure; and a run that
returns has done exactly what the reference does.
-/
import Stgs.Station.Reorder

namespace Stgs.Station

open Stgs.Concurrent Stgs.Theory.Ledger Stgs.Theory.Transition Stgs.Wire

set_option autoImplicit false

/-! ## The sequential reference -/

structure Sequential where
  decoded : Nat := 0
  rejected : Nat := 0
  applicationErrors : Nat := 0
  exported : List TelemetryFrame := []
  updates : List HealthUpdate := []
  health : StationHealthMonitor

/-- One result. -/
def Sequential.handle (state : Sequential) : FrameParseResult → Sequential
  | .ok frame =>
      { state with
        decoded := state.decoded + 1
        applicationErrors := state.applicationErrors + payloadErrors frame
        exported := state.exported ++ [frame]
        updates := state.updates ++ [.decoded frame]
        health := (state.health.recordDecoded frame).2 }
  | .error _ =>
      { state with
        rejected := state.rejected + 1
        updates := state.updates ++ [.rejected]
        health := state.health.recordRejected.2 }

/-- The results in order. -/
def sequential (health : StationHealthMonitor) (results : List FrameParseResult) : Sequential :=
  results.foldl .handle { health }

/-- The submitted vectors, one by one. -/
def reference (health : StationHealthMonitor) (submitted : List ByteVector) : Sequential :=
  sequential health (submitted.map decodeFrame)

section Sequential

variable (health : StationHealthMonitor)

@[simp] theorem sequential_concat (results : List FrameParseResult) (result : FrameParseResult) :
    sequential health (results ++ [result]) = (sequential health results).handle result :=
  List.foldl_concat ..

/-- One more result only adds to what was exported and recorded. -/
theorem handle_grows (state : Sequential) (result : FrameParseResult) :
    state.exported <+: (state.handle result).exported ∧
      state.updates <+: (state.handle result).updates := by
  cases result with
  | ok frame => exact ⟨List.prefix_append _ _, List.prefix_append _ _⟩
  | error error => exact ⟨List.prefix_rfl, List.prefix_append _ _⟩

/-- **The reference is monotone.** -/
theorem sequential_mono {results more : List FrameParseResult} (first : results <+: more) :
    (sequential health results).exported <+: (sequential health more).exported ∧
      (sequential health results).updates <+: (sequential health more).updates := by
  obtain ⟨rest, rfl⟩ := first
  induction rest using List.reverseRecOn with
  | nil => simp
  | append_singleton rest result ih =>
      rw [← List.append_assoc, sequential_concat]
      obtain ⟨exported, updates⟩ := handle_grows (sequential health (results ++ rest)) result
      exact ⟨ih.1.trans exported, ih.2.trans updates⟩

/-- The reference exports what decodes, and counts what does not. -/
theorem sequential_results (results : List FrameParseResult) :
    (sequential health results).exported = results.filterMap Except.toOption ∧
      (sequential health results).rejected + (results.filterMap Except.toOption).length =
        results.length := by
  induction results using List.reverseRecOn with
  | nil => exact ⟨rfl, rfl⟩
  | append_singleton results result ih =>
      rw [sequential_concat, List.filterMap_append, List.length_append, List.length_append,
        List.length_singleton, ← ih.2]
      cases result with
      | ok frame => exact ⟨congrArg (· ++ [frame]) ih.1, (Nat.add_assoc ..).symm⟩
      | error error =>
          refine ⟨ih.1.trans (List.append_nil _).symm, ?_⟩
          exact Nat.add_right_comm _ 1 _

/-- Every result is counted once. -/
theorem sequential_count (results : List FrameParseResult) :
    (sequential health results).decoded + (sequential health results).rejected = results.length := by
  induction results using List.reverseRecOn with
  | nil => rfl
  | append_singleton results result ih =>
      rw [sequential_concat, List.length_append, List.length_singleton, ← ih]
      cases result with
      | ok frame => exact Nat.add_right_comm _ _ _
      | error error => rfl

end Sequential

/-! ## The calls on one result -/

/-- The effects on the writer's record, in order. -/
inductive WriterCall where
  | counts
  | records
  | processes
  | writes
  | tallies

/-- The result at work, if the call was made for it. -/
def WriterPc.made (pc : WriterPc) (call : WriterCall) : List FrameParseResult :=
  match pc with
  | recording item => match call with
      | .counts => [item.result]
      | _ => []
  | processing item _ => match call with
      | .counts | .records => [item.result]
      | _ => []
  | writing item _ => match call with
      | .writes | .tallies => []
      | _ => [item.result]
  | tallying item _ => match call with
      | .tallies => []
      | _ => [item.result]
  | logging item | erasing item => [item.result]
  | _ => []

/-- The writer's record is that of the reference, call by call. -/
structure Worked (start : StationHealthMonitor) (handled : List FrameParseResult) (pc : WriterPc)
    (work : WriterState) (updates : List HealthUpdate) : Prop where
  decoded : work.decoded = (sequential start (handled ++ pc.made .counts)).decoded
  rejected : work.rejected = (sequential start (handled ++ pc.made .counts)).rejected
  health : work.health = (sequential start (handled ++ pc.made .records)).health
  updates : updates = (sequential start (handled ++ pc.made .records)).updates
  applicationErrors : work.applicationErrors =
    (sequential start (handled ++ pc.made .processes)).applicationErrors
  exported : work.exported = (sequential start (handled ++ pc.made .writes)).exported
  written : work.written = (sequential start (handled ++ pc.made .tallies)).decoded

section Worked

variable {start : StationHealthMonitor} {handled more : List FrameParseResult}
  {before after : WriterPc} {work next : WriterState} {updates later : List HealthUpdate}

/-- A step that makes no call leaves the record. -/
theorem Worked.idle (same : ∀ call, more ++ after.made call = handled ++ before.made call)
    (worked : Worked start handled before work updates) : Worked start more after work updates := by
  constructor
  · rw [same]
    exact worked.decoded
  · rw [same]
    exact worked.rejected
  · rw [same]
    exact worked.health
  · rw [same]
    exact worked.updates
  · rw [same]
    exact worked.applicationErrors
  · rw [same]
    exact worked.exported
  · rw [same]
    exact worked.written

/-- **Every call on a result is the reference's.** -/
theorem handles_worked {decoders : Nat} {options : Options} {state : PipelineState decoders}
    (handles : Handles options before work updates after next later)
    (place : state.WriterPlace before) (worked : Worked start handled before work updates) :
    Worked start handled after next later := by
  obtain ⟨decoded, rejected, health, recorded, errors, exported, written⟩ := worked
  cases handles with
  | countsDecoded result =>
      refine ⟨?_, ?_, health, recorded, errors, exported, written⟩
      · simp [countDecoded, decoded, WriterPc.made, result, Sequential.handle]
      · simp [countDecoded, rejected, WriterPc.made, result, Sequential.handle]
  | countsRejected result =>
      refine ⟨?_, ?_, health, recorded, errors, exported, written⟩
      · simp [countRejected, decoded, WriterPc.made, result, Sequential.handle]
      · simp [countRejected, rejected, WriterPc.made, result, Sequential.handle]
  | recordsDecoded result =>
      refine ⟨decoded, rejected, ?_, ?_, errors, exported, written⟩
      · simp [recordDecoded, health, WriterPc.made, result, Sequential.handle]
      · simp [recorded, WriterPc.made, result, Sequential.handle]
  | recordsRejected result =>
      -- a rejected result is neither processed nor written
      refine ⟨decoded, rejected, ?_, ?_, ?_, ?_, ?_⟩
      · simp [recordRejected, health, WriterPc.made, result, Sequential.handle]
      · simp [recorded, WriterPc.made, result, Sequential.handle]
      · simp [recordRejected, errors, WriterPc.made, result, Sequential.handle]
      · simp [recordRejected, exported, WriterPc.made, result, Sequential.handle]
      · simp [recordRejected, written, WriterPc.made, result, Sequential.handle]
  | processes processed =>
      have effect := processApplicationPayload_effect processed
      refine ⟨effect.decoded.trans decoded, effect.rejected.trans rejected,
        effect.health.trans health, recorded, ?_, effect.exported.trans exported,
        effect.written.trans written⟩
      rw [processApplicationPayload_errors processed, errors]
      simp [WriterPc.made, place.2, Sequential.handle]
  | writes =>
      refine ⟨decoded, rejected, health, recorded, errors, ?_, written⟩
      simp [exportFrame, exported, WriterPc.made, place.2, Sequential.handle]
  | tallies =>
      refine ⟨decoded, rejected, health, recorded, errors, exported, ?_⟩
      simp [countWritten, written, WriterPc.made, place.2, Sequential.handle]
  | logsDecoded result =>
      unfold logDecoded
      split
      · exact ⟨decoded, rejected, health, recorded, errors, exported, written⟩
      · exact ⟨decoded, rejected, health, recorded, errors, exported, written⟩
  | logsRejected result => exact ⟨decoded, rejected, health, recorded, errors, exported, written⟩

end Worked

/-! ## The writer's record along a run -/

variable {decoders : Nat}

theorem worked_writer {options : Options} {start : StationHealthMonitor}
    {state next : PipelineState decoders} (place : state.WriterPlace state.writer)
    (worked : Worked start state.handled state.writer state.work state.healthUpdates)
    (step : WriterStep options state next) (healthy : next.WriterHealthy) :
    Worked start next.handled next.writer next.work next.healthUpdates := by
  cases step with
  | handles handling => exact handles_worked handling place worked
  | erases erasing =>
      refine worked.idle fun call => ?_
      rw [erasing]
      exact List.append_nil _
  | pops here popped | drains here popped | inserts here fresh | finds here present next
  | waits here missing | checks here empty | stores here | finishes here =>
      refine worked.idle fun call => ?_
      rw [here]
      rfl
  | duplicates inserting present same => exact absurd rfl (healthy.1 .duplicateSequence .capturing)
  | gap checking left => exact absurd rfl (healthy.1 .sequenceGap .capturing)
  | @throwsPayload item frame exn processing processed =>
      exact absurd rfl (healthy.1 (.payload exn) .capturing)
  | throws exn may => exact absurd rfl (healthy.1 (.environment exn) .capturing)
  | @fails failure stage failing => exact absurd rfl (healthy.not_afterFail failure stage)

theorem SameWriter.worked {start : StationHealthMonitor} {state next : PipelineState decoders}
    (same : SameWriter state next)
    (worked : Worked start state.handled state.writer state.work state.healthUpdates) :
    Worked start next.handled next.writer next.work next.healthUpdates := by
  rwa [same.handled, same.writer, same.work, same.healthUpdates]

/-- **A writer that has not thrown has done what the reference does.** -/
theorem worked {options : Options} {health : StationHealthMonitor}
    {state : PipelineState options.decoderThreads}
    (reachable : (pipeline options health).Reachable state) (healthy : state.WriterHealthy) :
    Worked health state.handled state.writer state.work state.healthUpdates := by
  have holds : state.WriterHealthy →
      Worked health state.handled state.writer state.work state.healthUpdates := by
    refine @System.invariant_of _ _ (fun state => state.WriterHealthy → WriterAccounts state)
      (fun state => state.WriterHealthy →
        Worked health state.handled state.writer state.work state.healthUpdates)
      (fun _ reached healthy => writerAccounts reached healthy) ?_ ?_ _ reachable
    · rintro _ rfl _
      exact ⟨rfl, rfl, rfl, rfl, rfl, rfl, rfl⟩
    · rintro state next accounts worked (step | ⟨i, step⟩ | step) healthy
      · have same := mainStep_sameWriter step
        exact same.worked (worked (same.healthy.mp healthy))
      · have same := decoderStep_sameWriter step
        exact same.worked (worked (same.healthy.mp healthy))
      · have before := writerStep_healthy step healthy
        exact worked_writer (accounts before).place (worked before) step healthy
  exact holds healthy

/-! ## Prefixes -/

/-- What the writer has at work is the item it waited for. -/
theorem made_cases {state : PipelineState decoders} {pc : WriterPc} (place : state.WriterPlace pc)
    (call : WriterCall) :
    pc.made call = [] ∨ ∃ item, state.Current item ∧ pc.made call = [item.result] := by
  cases pc with
  | recording item => cases call <;> first | exact Or.inl rfl | exact Or.inr ⟨item, place, rfl⟩
  | processing item frame =>
      cases call <;> first | exact Or.inl rfl | exact Or.inr ⟨item, place.1, rfl⟩
  | writing item frame =>
      cases call <;> first | exact Or.inl rfl | exact Or.inr ⟨item, place.1, rfl⟩
  | tallying item frame =>
      cases call <;> first | exact Or.inl rfl | exact Or.inr ⟨item, place.1, rfl⟩
  | logging item => exact Or.inr ⟨item, place, rfl⟩
  | erasing item => exact Or.inr ⟨item, place, rfl⟩
  | _ => exact Or.inl rfl

/-- Whatever was called, it was called for the first results in order. -/
theorem made_in_order {state : PipelineState decoders} (raw : Accounts state)
    (writer : WriterAccounts state) (call : WriterCall) :
    state.handled ++ state.writer.made call <+: state.results := by
  rcases made_cases writer.place call with none | ⟨item, current, one⟩
  · rw [none, List.append_nil]
    exact writer.handled_in_order raw
  · rw [one]
    exact writer.current_in_order raw current

/-- In order, also after a failure. -/
structure Ordered (health : StationHealthMonitor) (state : PipelineState decoders) : Prop where
  handled : state.handled <+: state.results
  exported : state.work.exported <+: (sequential health state.results).exported
  updates : state.healthUpdates <+: (sequential health state.results).updates

theorem ordered_of_worked {health : StationHealthMonitor} {state : PipelineState decoders}
    (raw : Accounts state) (writer : WriterAccounts state)
    (worked : Worked health state.handled state.writer state.work state.healthUpdates) :
    Ordered health state where
  handled := writer.handled_in_order raw
  exported := by
    rw [worked.exported]
    exact (sequential_mono health (made_in_order raw writer .writes)).1
  updates := by
    rw [worked.updates]
    exact (sequential_mono health (made_in_order raw writer .records)).2

/-- More results, the same record. -/
theorem Ordered.grow {health : StationHealthMonitor} {state next : PipelineState decoders}
    (accepted : state.accepted <+: next.accepted) (handled : next.handled = state.handled)
    (work : next.work = state.work) (updates : next.healthUpdates = state.healthUpdates)
    (ordered : Ordered health state) : Ordered health next := by
  have results : state.results <+: next.results := accepted.map decodeFrame
  obtain ⟨exports, records⟩ := sequential_mono health results
  refine ⟨?_, ?_, ?_⟩
  · rw [handled]
    exact ordered.handled.trans results
  · rw [work]
    exact ordered.exported.trans exports
  · rw [updates]
    exact ordered.updates.trans records

theorem mainStep_accepted {state next : PipelineState decoders} (step : MainStep state next) :
    state.accepted <+: next.accepted := by
  cases step with
  | pushes pushing pushed => exact List.prefix_append _ _
  | @fails exn stage failing => cases stage <;> exact List.prefix_rfl
  | _ => exact List.prefix_rfl

/-- A writer that throws leaves its record. -/
theorem writerStep_throws {options : Options} {state next : PipelineState decoders}
    (step : WriterStep options state next) (failed : ¬ next.WriterHealthy) :
    next.handled = state.handled ∧ next.work = state.work ∧
      next.healthUpdates = state.healthUpdates := by
  cases step with
  | handles handling =>
      have may := (handles_mayThrow handling).2
      exact absurd ⟨may.running.2.2, may.running.2.1⟩ failed
  | erases erasing => exact absurd ⟨nofun, nofun⟩ failed
  | @fails failure stage failing => cases stage <;> exact ⟨rfl, rfl, rfl⟩
  | _ => exact ⟨rfl, rfl, rfl⟩

theorem ordered {options : Options} {health : StationHealthMonitor}
    {state : PipelineState options.decoderThreads}
    (reachable : (pipeline options health).Reachable state) : Ordered health state := by
  refine System.invariant_of (fun _ => id) ?_ ?_ reachable
  · rintro _ rfl
    exact ⟨List.prefix_rfl, List.prefix_rfl, List.prefix_rfl⟩
  · rintro state next reached ordered (step | ⟨i, step⟩ | step)
    · have same := mainStep_sameWriter step
      exact ordered.grow (mainStep_accepted step) same.handled same.work same.healthUpdates
    · have same := decoderStep_sameWriter step
      obtain ⟨accepted, _⟩ := decoderStep_submissions step
      refine ordered.grow ?_ same.handled same.work same.healthUpdates
      rw [accepted]
    · by_cases healthy : next.WriterHealthy
      · have reached := reached.step (Or.inr (Or.inr step))
        exact ordered_of_worked (accounts reached) (writerAccounts reached healthy)
          (worked reached healthy)
      · obtain ⟨handled, work, updates⟩ := writerStep_throws step healthy
        obtain ⟨accepted, _⟩ := writerStep_submissions step
        refine ordered.grow ?_ handled work updates
        rw [accepted]

/-! ## The two checks of the writer -/

/-- No number comes twice, and a gap comes after a failure outside the writer. -/
structure Unbroken (state : PipelineState decoders) : Prop where
  duplicate : ∀ stage, state.writer ≠ .failing .duplicateSequence stage
  gap : ∀ stage, state.writer = .failing .sequenceGap stage →
    ∃ exn, state.failure = some (.environment exn)
  caught : ∀ failure, state.failure = some failure →
    failure ≠ .duplicateSequence ∧ failure ≠ .sequenceGap

/-- The other threads record only what comes from outside, and not over an exception. -/
def Recorded (state next : PipelineState decoders) : Prop :=
  next.failure = state.failure ∨ ∃ exn, next.failure = state.failure.or (some (.environment exn))

theorem mainStep_recorded {state next : PipelineState decoders} (step : MainStep state next) :
    Recorded state next := by
  cases step with
  | @fails exn stage failing =>
      cases stage with
      | capturing => exact Or.inr ⟨exn, rfl⟩
      | _ => exact Or.inl rfl
  | _ => exact Or.inl rfl

theorem decoderStep_recorded {i : Fin decoders} {state next : PipelineState decoders}
    (step : DecoderStep i state next) : Recorded state next := by
  cases step with
  | @fails exn stage failing =>
      cases stage with
      | capturing => exact Or.inr ⟨exn, rfl⟩
      | _ => exact Or.inl rfl
  | _ => exact Or.inl rfl

theorem Unbroken.others {state next : PipelineState decoders} (unbroken : Unbroken state)
    (same : SameWriter state next) (recorded : Recorded state next) : Unbroken next := by
  refine ⟨?_, ?_, ?_⟩
  · rw [same.writer]
    exact unbroken.duplicate
  · intro stage failing
    rw [same.writer] at failing
    obtain ⟨first, found⟩ := unbroken.gap stage failing
    rcases recorded with kept | ⟨exn, captured⟩
    · exact ⟨first, kept.trans found⟩
    · exact ⟨first, by rw [captured, found, Option.some_or]⟩
  · intro failure found
    rcases recorded with kept | ⟨exn, captured⟩
    · exact unbroken.caught failure (kept.symm.trans found)
    · rw [captured] at found
      cases before : state.failure with
      | some first =>
          rw [before, Option.some_or] at found
          obtain rfl := Option.some.inj found
          exact unbroken.caught first before
      | none =>
          rw [before, Option.none_or] at found
          obtain rfl := Option.some.inj found
          exact ⟨nofun, nofun⟩

/-- **A gap has a failure behind it.** -/
theorem gap_environment {state : PipelineState decoders} (workers : 0 < decoders)
    (inv : Shutdown state) (raw : Accounts state) (writer : WriterAccounts state)
    (checking : state.writer = .checking) (left : state.pending ≠ []) :
    ∃ exn, state.failure = some (.environment exn) := by
  have drained := inv.writer
  rw [checking] at drained
  cases recorded : state.failure with
  | none =>
      obtain ⟨_, whole⟩ := delivered_all workers inv raw recorded drained.1
      exact absurd (writer.pending_nil whole checking drained.2) left
  | some failure =>
      have healthy : state.WriterHealthy := by simp [PipelineState.WriterHealthy, checking]
      obtain ⟨exn, rfl⟩ := (inv.source failure recorded).resolve_right (not_not_intro healthy)
      exact ⟨exn, rfl⟩

theorem unbroken_writer {options : Options} {state next : PipelineState decoders}
    (workers : 0 < decoders) (inv : Shutdown state) (raw : Accounts state)
    (writer : state.WriterHealthy → WriterAccounts state) (unbroken : Unbroken state)
    (step : WriterStep options state next) : Unbroken next := by
  have quiet {later : PipelineState decoders}
      (running : ∀ failure stage, later.writer ≠ .failing failure stage)
      (kept : later.failure = state.failure) : Unbroken later := by
    refine ⟨running _, fun stage failing => absurd failing (running _ stage), ?_⟩
    rw [kept]
    exact unbroken.caught
  cases step with
  | handles handling => exact quiet (handles_mayThrow handling).2.running.2.2 rfl
  | @duplicates item other inserting present same =>
      have healthy : state.WriterHealthy := by simp [PipelineState.WriterHealthy, inserting]
      exact absurd same ((writer healthy).fresh raw inserting other present)
  | gap checking left =>
      have healthy : state.WriterHealthy := by simp [PipelineState.WriterHealthy, checking]
      have behind := gap_environment workers inv raw (writer healthy) checking left
      exact ⟨by simp, fun _ _ => behind, unbroken.caught⟩
  | @fails failure stage failing =>
      have own : failure ≠ .duplicateSequence := by
        rintro rfl
        exact unbroken.duplicate stage failing
      have same {later : FailStage} {still : Failure}
          (after : WriterPc.afterFail failure stage = .failing still later) : still = failure := by
        cases stage <;> cases after <;> rfl
      refine ⟨fun later after => own (same after).symm, ?_, ?_⟩
      · intro later after
        obtain rfl := same after
        obtain ⟨exn, found⟩ := unbroken.gap stage failing
        exact ⟨exn, fail_first found⟩
      · intro recorded found
        rcases fail_failure found with before | rfl
        · exact unbroken.caught recorded before
        · refine ⟨own, ?_⟩
          rintro rfl
          -- the gap would have to be recorded over the failure behind it
          obtain ⟨exn, first⟩ := unbroken.gap stage failing
          have kept : some (.environment exn) = some Failure.sequenceGap :=
            (fail_first first).symm.trans found
          cases kept
  | throwsPayload processing processed => exact ⟨by simp, by simp, unbroken.caught⟩
  | throws exn may => exact ⟨by simp, by simp, unbroken.caught⟩
  | _ => exact quiet (by simp) rfl

theorem unbroken {options : Options} {health : StationHealthMonitor}
    (workers : 0 < options.decoderThreads) {state : PipelineState options.decoderThreads}
    (reachable : (pipeline options health).Reachable state) : Unbroken state := by
  refine System.invariant_of (fun _ => id) ?_ ?_ reachable
  · rintro _ rfl
    exact ⟨nofun, nofun, nofun⟩
  · rintro state next reached unbroken (step | ⟨i, step⟩ | step)
    · exact unbroken.others (mainStep_sameWriter step) (mainStep_recorded step)
    · exact unbroken.others (decoderStep_sameWriter step) (decoderStep_recorded step)
    · exact unbroken_writer workers (shutdown reached) (accounts reached) (writerAccounts reached)
        unbroken step

/-! ## A run that returns -/

/-- What the reference says of a finished station. -/
structure Complete (start : StationHealthMonitor) (state : PipelineState decoders) : Prop where
  accepted : state.accepted = state.submitted
  handled : state.handled = state.accepted.map decodeFrame
  exported : state.work.exported = (reference start state.submitted).exported
  updates : state.healthUpdates = (reference start state.submitted).updates
  health : state.work.health = (reference start state.submitted).health
  applicationErrors : state.applicationErrors =
    (reference start state.submitted).applicationErrors
  received : state.received = state.work.decoded + state.work.rejected
  written : state.work.written = state.work.decoded

/-- Where a station that returned stands: the writer completed, nothing refused or lost. -/
theorem completed_of_returned {options : Options} {health : StationHealthMonitor}
    (workers : 0 < options.decoderThreads) {state : PipelineState options.decoderThreads}
    (reachable : (pipeline options health).Reachable state) (returned : state.main = .returned) :
    state.writer = .completed ∧ state.accepted = state.submitted ∧
      state.handled = state.results := by
  have inv := shutdown reachable
  have raw := accounts reachable
  have place := inv.main
  have submitted := raw.place
  rw [returned] at place submitted
  obtain ⟨closed, _, ended, clean⟩ := place
  have completed : state.writer = .completed := by
    refine ended.resolve_right fun failed => ?_
    have recorded := inv.writer
    rw [failed] at recorded
    simp [PipelineState.WriterOk, clean] at recorded
  have healthy : state.WriterHealthy := by simp [PipelineState.WriterHealthy, completed]
  have writer := writerAccounts reachable healthy
  have drained := inv.writer
  rw [completed] at drained
  -- nothing was lost, and nothing is on its way
  obtain ⟨_, whole⟩ := delivered_all workers inv raw clean closed
  refine ⟨completed, submitted.resolve_right fun aborted => ?_, enumerate_injective ?_⟩
  · simp [PipelineState.RawAborted, clean] at aborted
  · rw [← whole]
    exact writer.all_handled drained.1.2 drained.2 (by rw [completed]; rfl)

/-- The writer's record is the reference's. -/
theorem worked_of_returned {options : Options} {health : StationHealthMonitor}
    (workers : 0 < options.decoderThreads) {state : PipelineState options.decoderThreads}
    (reachable : (pipeline options health).Reachable state) (returned : state.main = .returned) :
    Worked health state.handled .completed state.work state.healthUpdates ∧
      ∀ call, sequential health (state.handled ++ WriterPc.completed.made call) =
        reference health state.submitted := by
  obtain ⟨completed, accepted, handled⟩ := completed_of_returned workers reachable returned
  refine ⟨?_, fun call => ?_⟩
  · rw [← completed]
    exact worked reachable (by simp [PipelineState.WriterHealthy, completed])
  · rw [handled, PipelineState.results, accepted]
    exact congrArg (sequential health) (List.append_nil _)

/-- The counters are the reference's. -/
theorem counted_of_returned {options : Options} {health : StationHealthMonitor}
    (workers : 0 < options.decoderThreads) {state : PipelineState options.decoderThreads}
    (reachable : (pipeline options health).Reachable state) (returned : state.main = .returned) :
    state.work.decoded = (reference health state.submitted).decoded ∧
      state.work.rejected = (reference health state.submitted).rejected := by
  obtain ⟨works, sofar⟩ := worked_of_returned workers reachable returned
  rw [works.decoded, works.rejected, sofar]
  exact ⟨rfl, rfl⟩

theorem complete_of_returned {options : Options} {health : StationHealthMonitor}
    (workers : 0 < options.decoderThreads) {state : PipelineState options.decoderThreads}
    (reachable : (pipeline options health).Reachable state) (returned : state.main = .returned) :
    Complete health state := by
  have raw := accounts reachable
  obtain ⟨completed, accepted, handled⟩ := completed_of_returned workers reachable returned
  obtain ⟨works, sofar⟩ := worked_of_returned workers reachable returned
  obtain ⟨decoded, rejected⟩ := counted_of_returned workers reachable returned
  have stored :=
    (writerAccounts reachable (by simp [PipelineState.WriterHealthy, completed])).place
  have received := raw.received
  rw [completed] at stored
  rw [returned] at received
  constructor
  · exact accepted
  · exact handled
  · rw [works.exported, sofar]
  · rw [works.updates, sofar]
  · rw [works.health, sofar]
  · rw [stored.2, works.applicationErrors, sofar]
  · rw [decoded, rejected, reference, sequential_count, List.length_map, ← accepted]
    exact received
  · rw [works.written, works.decoded, sofar, sofar]

end Stgs.Station
