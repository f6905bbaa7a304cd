/-
# Station.WriterRecord -- the writer's record is that of one loop

`handleResult` is the writer's work on one result, as one function: counters, health,
terminal, log and export.  `handleAll` calls it on the results in order, each under its
number, until a call throws.  It is the program without threads, queues and map.

The pipeline does these calls one by one among the steps of other threads, and any call may
fail.  `writer_record`: between two results the whole record, terminal and log included, is
that of `handleAll`; what was shown is always a front of what the submitted vectors have to
show (`shownOf`); and if a payload has made the station fail, it makes `handleAll` throw the
same exception after as many results.
-/
import Stgs.Station.Ordering

namespace Stgs.Station

open Stgs.Theory.Transition Stgs.Wire

set_option autoImplicit false

/-! ## One loop -/

/-- The results in order, the first one under this number. -/
noncomputable def handleAll (options : Options) (state : WriterState) :
    Nat → List FrameParseResult → Except Exn WriterState
  | _, [] => .ok state
  | sequence, result :: results =>
      match handleResult options sequence result state with
      | .error exn => .error exn
      | .ok next => handleAll options next (sequence + 1) results

/-- What a frame has to show. -/
noncomputable def shownOf (options : Options) (frame : TelemetryFrame) : Option Shown :=
  match decodeApplicationPayload frame.payload with
  | .text message => some (.message frame.satelliteId message.sequence message.text)
  | .signal signal => (processSignal options frame signal).toOption
  | _ => none

noncomputable def resultShown (options : Options) (result : FrameParseResult) : Option Shown :=
  result.toOption.bind (shownOf options)

section Loop

variable {options : Options} {state next : WriterState}

theorem handleAll_concat (results : List FrameParseResult) (result : FrameParseResult)
    (sequence : Nat) :
    handleAll options state sequence (results ++ [result]) =
      match handleAll options state sequence results with
      | .error exn => .error exn
      | .ok next => handleResult options (sequence + results.length) result next := by
  induction results generalizing state sequence with
  | nil =>
      simp only [List.nil_append, handleAll, List.length_nil, Nat.add_zero]
      cases handleResult options sequence result state <;> rfl
  | cons first results ih =>
      simp only [List.cons_append, handleAll]
      cases handleResult options sequence first state with
      | error exn => rfl
      | ok middle =>
          simp only [ih, List.length_cons]
          rw [Nat.add_right_comm, Nat.add_assoc]

theorem processed_shows {frame : TelemetryFrame}
    (processed : processApplicationPayload options frame state = .ok next) :
    next.terminal = state.terminal ++ (shownOf options frame).toList := by
  unfold processApplicationPayload at processed
  unfold shownOf
  cases decoded : decodeApplicationPayload frame.payload with
  | monostate =>
      rw [decoded] at processed
      obtain rfl := Except.ok.inj processed
      exact (List.append_nil _).symm
  | text message =>
      rw [decoded] at processed
      obtain rfl := Except.ok.inj processed
      rfl
  | signal signal =>
      simp only [decoded] at processed
      cases shows : processSignal options frame signal with
      | error exn =>
          rw [shows] at processed
          cases processed
      | ok shown =>
          rw [shows] at processed
          obtain rfl := Except.ok.inj processed
          simp [shows, Except.toOption]
  | error error =>
      rw [decoded] at processed
      obtain rfl := Except.ok.inj processed
      exact (List.append_nil _).symm

/-- The work on a result shows what the result has to show. -/
theorem handled_shows {sequence : Nat} {result : FrameParseResult}
    (handled : handleResult options sequence result state = .ok next) :
    next.terminal = state.terminal ++ (resultShown options result).toList := by
  cases result with
  | error error =>
      obtain rfl := Except.ok.inj handled
      exact (List.append_nil _).symm
  | ok frame =>
      simp only [handleResult, handleDecoded] at handled
      cases result : processApplicationPayload options frame
          (recordDecoded frame (countDecoded state)) with
      | error exn =>
          rw [result] at handled
          cases handled
      | ok processed =>
          rw [result] at handled
          obtain rfl := Except.ok.inj handled
          have shows := processed_shows result
          unfold logDecoded
          split <;> exact shows

/-- **What the loop has shown.** -/
theorem handleAll_shows {results : List FrameParseResult} {sequence : Nat}
    (handled : handleAll options state sequence results = .ok next) :
    next.terminal = state.terminal ++ results.filterMap (resultShown options) := by
  induction results generalizing state sequence with
  | nil =>
      obtain rfl := Except.ok.inj handled
      exact (List.append_nil _).symm
  | cons result results ih =>
      simp only [handleAll] at handled
      cases first : handleResult options sequence result state with
      | error exn =>
          rw [first] at handled
          cases handled
      | ok middle =>
          rw [first] at handled
          rw [ih handled, handled_shows first]
          cases shown : resultShown options result with
          | none => simp [shown]
          | some item => simp [shown]

end Loop

/-! ## Between the calls -/

/-- The result at work. -/
def WriterPc.item : WriterPc → Option DecodedWorkItem
  | counting item | recording item | processing item _ | writing item _ | tallying item _
  | logging item | erasing item => some item
  | _ => none

/-- How far the work on the result has come, from the record before it. -/
def Stage (options : Options) (base : WriterState) : WriterPc → WriterState → Prop
  | .recording item, work =>
      (∃ frame, item.result = .ok frame ∧ work = countDecoded base) ∨
        ∃ error, item.result = .error error ∧ work = countRejected base
  | .processing item frame, work =>
      item.result = .ok frame ∧ work = recordDecoded frame (countDecoded base)
  | .writing item frame, work =>
      item.result = .ok frame ∧
        processApplicationPayload options frame (recordDecoded frame (countDecoded base)) = .ok work
  | .tallying item frame, work =>
      item.result = .ok frame ∧ ∃ processed,
        processApplicationPayload options frame (recordDecoded frame (countDecoded base)) =
          .ok processed ∧ work = exportFrame frame processed
  | .logging item, work =>
      (∃ frame processed, item.result = .ok frame ∧
        processApplicationPayload options frame (recordDecoded frame (countDecoded base)) =
          .ok processed ∧ work = countWritten (exportFrame frame processed)) ∨
        ∃ error, item.result = .error error ∧ work = recordRejected (countRejected base)
  | .erasing item, work => handleResult options item.sequence item.result base = .ok work
  | _, work => work = base

section Stages

variable {options : Options} {base : WriterState} {before after : WriterPc}
  {work next : WriterState} {updates later : List HealthUpdate}

/-- **Each call is the next part of `handleResult`.** -/
theorem handles_stage (handles : Handles options before work updates after next later)
    (stage : Stage options base before work) : Stage options base after next := by
  cases handles with
  | countsDecoded result => exact Or.inl ⟨_, result, congrArg countDecoded stage⟩
  | countsRejected result => exact Or.inr ⟨_, result, congrArg countRejected stage⟩
  | recordsDecoded result =>
      rcases stage with ⟨_, _, rfl⟩ | ⟨_, other, _⟩
      · exact ⟨result, rfl⟩
      · rw [result] at other
        cases other
  | recordsRejected result =>
      rcases stage with ⟨_, other, _⟩ | ⟨_, _, rfl⟩
      · rw [result] at other
        cases other
      · exact Or.inr ⟨_, result, rfl⟩
  | processes processed =>
      obtain ⟨result, rfl⟩ := stage
      exact ⟨result, processed⟩
  | writes => exact ⟨stage.1, _, stage.2, rfl⟩
  | tallies =>
      obtain ⟨result, processed, process, rfl⟩ := stage
      exact Or.inl ⟨_, processed, result, process, rfl⟩
  | logsDecoded result =>
      rcases stage with ⟨frame, processed, same, process, rfl⟩ | ⟨_, other, _⟩
      · obtain rfl := Except.ok.inj (result.symm.trans same)
        simp only [Stage, result, handleResult, handleDecoded, process]
      · rw [result] at other
        cases other
  | logsRejected result =>
      rcases stage with ⟨_, _, other, _⟩ | ⟨error, same, rfl⟩
      · rw [result] at other
        cases other
      · obtain rfl := Except.error.inj (result.symm.trans same)
        simp only [Stage, result, handleResult, handleRejected]

theorem handles_item (handles : Handles options before work updates after next later) :
    after.item = before.item := by
  cases handles <;> rfl

/-- What is shown by then: all of the result, or nothing of it. -/
theorem stage_shows {pc : WriterPc} (stage : Stage options base pc work) :
    work.terminal = base.terminal ∨
      ∃ item, pc.item = some item ∧
        work.terminal = base.terminal ++ (resultShown options item.result).toList := by
  cases pc with
  | recording item =>
      rcases stage with ⟨_, _, rfl⟩ | ⟨_, _, rfl⟩
      · exact Or.inl rfl
      · exact Or.inl rfl
  | processing item frame =>
      obtain ⟨_, rfl⟩ := stage
      exact Or.inl rfl
  | writing item frame =>
      refine Or.inr ⟨item, rfl, ?_⟩
      rw [processed_shows stage.2, stage.1]
      rfl
  | tallying item frame =>
      obtain ⟨result, processed, process, rfl⟩ := stage
      have shows := processed_shows process
      refine Or.inr ⟨item, rfl, ?_⟩
      rw [result]
      exact shows
  | logging item =>
      rcases stage with ⟨frame, processed, result, process, rfl⟩ | ⟨_, _, rfl⟩
      · have shows := processed_shows process
        refine Or.inr ⟨item, rfl, ?_⟩
        rw [result]
        exact shows
      · exact Or.inl rfl
  | erasing item => exact Or.inr ⟨item, rfl, handled_shows stage⟩
  | _ =>
      obtain rfl : work = base := stage
      exact Or.inl rfl

end Stages

/-! ## Along a run -/

/-- The writer is, or was when it failed, so far with the next result. -/
structure SoFar (options : Options) (health : StationHealthMonitor) {decoders : Nat}
    (state : PipelineState decoders) (base : WriterState) (pc : WriterPc) : Prop where
  loop : handleAll options { health } 0 state.handled = .ok base
  stage : Stage options base pc state.work
  here : state.WriterHealthy → pc = state.writer
  next : ∀ item, pc.item = some item → state.handled ++ [item.result] <+: state.results

/-- A payload makes the loop throw, after what was handled. -/
def PayloadThrows (options : Options) (health : StationHealthMonitor) {decoders : Nat}
    (state : PipelineState decoders) (exn : Exn) : Prop :=
  ∃ result, state.handled ++ [result] <+: state.results ∧
    handleAll options { health } 0 (state.handled ++ [result]) = .error exn

section Run

variable {options : Options} {health : StationHealthMonitor} {decoders : Nat}
  {state next : PipelineState decoders} {base : WriterState} {pc : WriterPc}

/-- The result at work is the next one. -/
theorem item_in_order (raw : Accounts state) (writer : WriterAccounts state)
    {item : DecodedWorkItem} (work : state.writer.item = some item) :
    state.handled ++ [item.result] <+: state.results := by
  have place := writer.place
  have current : state.Current item := by
    cases here : state.writer with
    | counting | recording | logging | erasing =>
        rw [here] at work place
        obtain rfl := Option.some.inj work
        exact place
    | processing | writing | tallying =>
        rw [here] at work place
        obtain rfl := Option.some.inj work
        exact place.1
    | _ =>
        rw [here] at work
        cases work
  exact writer.current_in_order raw current

theorem SoFar.others (sofar : SoFar options health state base pc)
    (same : SameWriter state next) (accepted : state.accepted <+: next.accepted) :
    SoFar options health next base pc where
  loop := by
    rw [same.handled]
    exact sofar.loop
  stage := by
    rw [same.work]
    exact sofar.stage
  here healthy := (sofar.here (same.healthy.mp healthy)).trans same.writer.symm
  next item work := by
    rw [same.handled]
    exact (sofar.next item work).trans (accepted.map decodeFrame)

/-- A healthy step of the writer. -/
theorem SoFar.writer (sofar : SoFar options health state base state.writer)
    (before : WriterAccounts state) (step : WriterStep options state next)
    (healthy : next.WriterHealthy) (raw : Accounts next) (after : WriterAccounts next) :
    ∃ base, SoFar options health next base next.writer := by
  have stage := sofar.stage
  have keeps (handled : next.handled = state.handled)
      (stage : Stage options base next.writer next.work) :
      ∃ base, SoFar options health next base next.writer :=
    ⟨base, handled ▸ sofar.loop, stage, fun _ => rfl, fun _ => item_in_order raw after⟩
  cases step with
  | handles handling => exact keeps rfl (handles_stage handling stage)
  | @erases item erasing =>
      have place := before.place
      rw [erasing] at stage place
      have number : 0 + state.handled.length = item.sequence := by
        rw [Nat.zero_add, place.2, before.expected]
      refine ⟨state.work, ?_, rfl, fun _ => rfl, fun _ => item_in_order raw after⟩
      rw [handleAll_concat, sofar.loop, number]
      exact stage
  | pops here popped | drains here popped | inserts here fresh | finds here present next
  | waits here missing | checks here empty | stores here | finishes here =>
      rw [here] at stage
      exact keeps rfl stage
  | duplicates inserting present same => exact absurd rfl (healthy.1 .duplicateSequence .capturing)
  | gap checking left => exact absurd rfl (healthy.1 .sequenceGap .capturing)
  | @throwsPayload item frame exn processing processed =>
      exact absurd rfl (healthy.1 (.payload exn) .capturing)
  | throws exn may => exact absurd rfl (healthy.1 (.environment exn) .capturing)
  | @fails failure stage failing => exact absurd rfl (healthy.not_afterFail failure stage)

/-- A writer that throws leaves its record, and what it was at. -/
theorem SoFar.throws (sofar : SoFar options health state base pc)
    (step : WriterStep options state next) (failed : ¬ next.WriterHealthy) :
    SoFar options health next base pc := by
  obtain ⟨handled, work, _⟩ := writerStep_throws step failed
  obtain ⟨accepted, _⟩ := writerStep_submissions step
  refine ⟨?_, ?_, fun healthy => absurd healthy failed, fun item is => ?_⟩
  · rw [handled]
    exact sofar.loop
  · rw [work]
    exact sofar.stage
  · rw [handled, PipelineState.results, accepted]
    exact sofar.next item is

theorem PayloadThrows.grow {exn : Exn} (throws : PayloadThrows options health state exn)
    (handled : next.handled = state.handled) (accepted : state.accepted <+: next.accepted) :
    PayloadThrows options health next exn := by
  obtain ⟨result, front, threw⟩ := throws
  refine ⟨result, ?_, ?_⟩
  · rw [handled]
    exact front.trans (accepted.map decodeFrame)
  · rw [handled]
    exact threw

/-- The exception of a payload is that of the loop. -/
theorem SoFar.payload (sofar : SoFar options health state base state.writer)
    (raw : Accounts state) (before : WriterAccounts state) {item : DecodedWorkItem}
    {frame : TelemetryFrame} {exn : Exn} (processing : state.writer = .processing item frame)
    (processed : processApplicationPayload options frame state.work = .error exn) :
    PayloadThrows options health state exn := by
  have stage := sofar.stage
  have place := before.place
  rw [processing] at stage place
  obtain ⟨result, work⟩ := stage
  rw [work] at processed
  have number : 0 + state.handled.length = item.sequence := by
    rw [Nat.zero_add, place.1.2, before.expected]
  refine ⟨item.result, before.current_in_order raw place.1, ?_⟩
  rw [handleAll_concat, sofar.loop, number]
  simp only [result, handleResult, handleDecoded, processed]

end Run

variable {options : Options} {health : StationHealthMonitor}
  {state : PipelineState options.decoderThreads}

/-- **In every reachable state** the writer is, or was, so far. -/
theorem soFar_of_reachable (reachable : (pipeline options health).Reachable state) :
    ∃ base pc, SoFar options health state base pc := by
  refine @System.invariant_of _ _ (pipeline options health).Reachable
    (fun state => ∃ base pc, SoFar options health state base pc) (fun _ => id) ?_ ?_ _ reachable
  · rintro _ rfl
    exact ⟨_, .popping, rfl, rfl, fun _ => rfl, nofun⟩
  · rintro state next reached ⟨base, pc, sofar⟩ (step | ⟨i, step⟩ | step)
    · exact ⟨base, pc, sofar.others (mainStep_sameWriter step) (mainStep_accepted step)⟩
    · obtain ⟨accepted, _⟩ := decoderStep_submissions step
      exact ⟨base, pc, sofar.others (decoderStep_sameWriter step) (by rw [accepted])⟩
    · by_cases healthy : next.WriterHealthy
      · have before := writerStep_healthy step healthy
        have later := reached.step (Or.inr (Or.inr step))
        obtain rfl := sofar.here before
        obtain ⟨base, sofar⟩ := sofar.writer (writerAccounts reached before) step healthy
          (accounts later) (writerAccounts later healthy)
        exact ⟨base, _, sofar⟩
      · exact ⟨base, pc, sofar.throws step healthy⟩

/-- Where a payload has thrown, or its exception is the one that counts. -/
def PayloadFailed (state : PipelineState options.decoderThreads) (exn : Exn) : Prop :=
  (∃ stage, state.writer = .failing (.payload exn) stage) ∨ state.failure = some (.payload exn)

/-- A payload that has thrown does so for good. -/
theorem PayloadFailed.unhealthy (inv : Shutdown state) {exn : Exn}
    (failed : PayloadFailed state exn) : ¬ state.WriterHealthy := by
  rcases failed with ⟨stage, here⟩ | captured
  · exact fun healthy => healthy.1 _ _ here
  · rcases inv.source _ captured with ⟨_, other⟩ | failed
    · cases other
    · exact failed

theorem payloadThrows_of_reachable (reachable : (pipeline options health).Reachable state)
    {exn : Exn} (failed : PayloadFailed state exn) : PayloadThrows options health state exn := by
  revert exn
  refine @System.invariant_of _ _ (pipeline options health).Reachable
    (fun state => ∀ {exn : Exn}, PayloadFailed state exn → PayloadThrows options health state exn)
    (fun _ => id) ?_ ?_ _ reachable
  · rintro _ rfl exn (⟨stage, here⟩ | captured)
    · cases here
    · cases captured
  · rintro state next reached throws (step | ⟨i, step⟩ | step) exn failed
    · have same := mainStep_sameWriter step
      refine (throws ?_).grow same.handled (mainStep_accepted step)
      rcases failed with ⟨stage, here⟩ | captured
      · exact Or.inl ⟨stage, same.writer ▸ here⟩
      · refine Or.inr ?_
        cases step with
        | fails failing => exact (fail_failure captured).resolve_right nofun
        | _ => exact captured
    · have same := decoderStep_sameWriter step
      obtain ⟨accepted, _⟩ := decoderStep_submissions step
      refine (throws ?_).grow same.handled (by rw [accepted])
      rcases failed with ⟨stage, here⟩ | captured
      · exact Or.inl ⟨stage, same.writer ▸ here⟩
      · refine Or.inr ?_
        cases step with
        | fails failing => exact (fail_failure captured).resolve_right nofun
        | _ => exact captured
    · have later := reached.step (Or.inr (Or.inr step))
      obtain ⟨handled, _, _⟩ := writerStep_throws step (failed.unhealthy (shutdown later))
      obtain ⟨accepted, _⟩ := writerStep_submissions step
      -- it had failed before, unless this is the step that throws
      have earlier : PayloadFailed state exn ∨ PayloadThrows options health state exn := by
        cases step with
        | @throwsPayload item frame thrown processing processed =>
            rcases failed with ⟨stage, here⟩ | captured
            · cases here
              have healthy : state.WriterHealthy := by
                simp [PipelineState.WriterHealthy, processing]
              obtain ⟨base, pc, sofar⟩ := soFar_of_reachable reached
              obtain rfl := sofar.here healthy
              exact Or.inr (sofar.payload (accounts reached) (writerAccounts reached healthy)
                processing processed)
            · exact Or.inl (Or.inr captured)
        | @fails failure stage failing =>
            refine Or.inl ?_
            rcases failed with ⟨after, here⟩ | captured
            · refine Or.inl ⟨stage, ?_⟩
              have same : WriterPc.afterFail failure stage = .failing (.payload exn) after := here
              cases stage <;> cases same <;> exact failing
            · rcases fail_failure captured with before | rfl
              · exact Or.inr before
              · exact Or.inl ⟨stage, failing⟩
        | handles handling =>
            rcases failed with ⟨stage, here⟩ | captured
            · have may := (handles_mayThrow handling).2
              exact absurd here (may.running.2.2 _ _)
            · exact Or.inl (Or.inr captured)
        | _ =>
            rcases failed with ⟨stage, here⟩ | captured
            · cases here
            · exact Or.inl (Or.inr captured)
      rcases earlier with before | threw
      · exact (throws before).grow handled (by rw [accepted])
      · exact threw.grow handled (by rw [accepted])

/-! ## The whole record -/

/-- What is shown is a front of what the results have to show. -/
theorem SoFar.terminal {base : WriterState} {pc : WriterPc}
    (sofar : SoFar options health state base pc) (ordered : state.handled <+: state.results) :
    state.work.terminal <+: state.results.filterMap (resultShown options) := by
  have shown := handleAll_shows sofar.loop
  rw [List.nil_append] at shown
  rcases stage_shows sofar.stage with nothing | ⟨item, work, more⟩
  · rw [nothing, shown]
    exact ordered.filterMap _
  · have step : state.work.terminal =
        (state.handled ++ [item.result]).filterMap (resultShown options) := by
      rw [more, shown, List.filterMap_append]
      cases own : resultShown options item.result <;> simp [own]
    rw [step]
    exact (sofar.next item work).filterMap _

theorem SoFar.whole {base : WriterState} {pc : WriterPc}
    (sofar : SoFar options health state base pc) (healthy : state.WriterHealthy)
    (idle : state.writer.item = none) :
    handleAll options { health } 0 state.handled = .ok state.work := by
  obtain rfl := sofar.here healthy
  have same : state.work = base := by
    have stage := sofar.stage
    cases here : state.writer with
    | counting | recording | processing | writing | tallying | logging | erasing =>
        rw [here] at idle
        cases idle
    | _ =>
        rw [here] at stage
        exact stage
  rw [same]
  exact sofar.loop

/-- The terminal, also after a failure. -/
theorem terminal_in_order (reachable : (pipeline options health).Reachable state) :
    state.work.terminal <+:
      (state.submitted.map decodeFrame).filterMap (resultShown options) := by
  have results : state.results <+: state.submitted.map decodeFrame :=
    (accounts reachable).kept.map decodeFrame
  obtain ⟨base, pc, sofar⟩ := soFar_of_reachable reachable
  exact (sofar.terminal (ordered reachable).handled).trans (results.filterMap _)

/-- A run that returns. -/
theorem loop_of_returned (workers : 0 < options.decoderThreads)
    (reachable : (pipeline options health).Reachable state) (returned : state.main = .returned) :
    handleAll options { health } 0 (state.submitted.map decodeFrame) = .ok state.work := by
  obtain ⟨completed, accepted, handled⟩ := completed_of_returned workers reachable returned
  obtain ⟨base, pc, sofar⟩ := soFar_of_reachable reachable
  have all := sofar.whole (by simp [PipelineState.WriterHealthy, completed])
    (by rw [completed]; rfl)
  rwa [handled, PipelineState.results, accepted] at all

end Stgs.Station
