/-
# Station.ReplayInput -- the station replays a capture

`receiveReplay` opens the capture and submits frame after frame, until the file ends or
`running_` is false.  `replayStation` is the pipeline with the reader beside it: what the
main thread submits is what the reader has read.  There is no stop signal; then `running_`
is false only after a failure (`StopsOnFailure`), and a run that returns has submitted the
whole file (`replay_returned`).

The store to `running_` behind the loop is left out: nobody reads it from then on.
-/
import Stgs.Station.Ordering
import Stgs.Wire.Replay

namespace Stgs.Station

open Stgs.Concurrent Stgs.Theory.Transition Stgs.Wire

set_option autoImplicit false

/-! ## The input stage -/

structure ReplayState (decoders : Nat) where
  pipeline : PipelineState decoders
  reader : Option FrameFileReader := none

/-- A step of the station; the main thread receives from the file. -/
inductive ReplayStep (options : Options) (file : ByteVector) {decoders : Nat}
    (state : ReplayState decoders) : ReplayState decoders → Prop where
  | opens {reader : FrameFileReader} (receiving : state.pipeline.main = .receiving)
      (unopened : state.reader = none) (opened : FrameFileReader.create file = .ok reader) :
      ReplayStep options file state { state with reader := some reader }
  | submits {reader next : FrameFileReader} {bytes : ByteVector}
      (receiving : state.pipeline.main = .receiving) (opened : state.reader = some reader)
      (running : state.pipeline.running = true) (read : reader.readNext = .ok (some (bytes, next))) :
      ReplayStep options file state
        { pipeline :=
            { state.pipeline with
              main := .pushing ⟨state.pipeline.nextSequence, bytes⟩
              nextSequence := state.pipeline.nextSequence + 1
              submitted := state.pipeline.submitted ++ [bytes] }
          reader := some next }
  | ends {reader : FrameFileReader} (receiving : state.pipeline.main = .receiving)
      (opened : state.reader = some reader)
      (ended : state.pipeline.running = false ∨ reader.readNext = .ok none) :
      ReplayStep options file state
        { state with pipeline := { state.pipeline with main := .closingRaw } }
  -- what the reader throws, or anything else in the input stage
  | throws (exn : Exn) (receiving : state.pipeline.main = .receiving) :
      ReplayStep options file state
        { state with pipeline := { state.pipeline with main := .failing exn .capturing } }
  | main {next : PipelineState decoders} (busy : state.pipeline.main ≠ .receiving)
      (step : MainStep state.pipeline next) : ReplayStep options file state { state with pipeline := next }
  | decoder {i : Fin decoders} {next : PipelineState decoders}
      (step : DecoderStep i state.pipeline next) :
      ReplayStep options file state { state with pipeline := next }
  | writer {next : PipelineState decoders} (step : WriterStep options state.pipeline next) :
      ReplayStep options file state { state with pipeline := next }

/-- **The station replaying a file**, without a stop signal. -/
def replayStation (options : Options) (health : StationHealthMonitor) (file : ByteVector) :
    System (ReplayState options.decoderThreads) where
  start state := state = { pipeline := .initial options health }
  step := ReplayStep options file

section Runs

variable {options : Options} {health : StationHealthMonitor} {file : ByteVector}
  {state next : ReplayState options.decoderThreads}

theorem ReplayStep.pipeline (step : ReplayStep options file state next) :
    next.pipeline = state.pipeline ∨
      (pipeline options health).step state.pipeline next.pipeline := by
  cases step with
  | opens receiving unopened opened => exact Or.inl rfl
  | submits receiving opened running read => exact Or.inr (Or.inl (.submits _ receiving))
  | ends receiving opened ended => exact Or.inr (Or.inl (.ends receiving))
  | throws exn receiving =>
      exact Or.inr (Or.inl (.throws exn (by rw [receiving]; exact trivial)))
  | main busy step => exact Or.inr (Or.inl step)
  | decoder step => exact Or.inr (Or.inr (Or.inl ⟨_, step⟩))
  | writer step => exact Or.inr (Or.inr (Or.inr step))

/-- **A replay is a run of the pipeline.** -/
theorem replay_reachable (reachable : (replayStation options health file).Reachable state) :
    (pipeline options health).Reachable state.pipeline := by
  refine @System.invariant _ _
    (fun state => (Station.pipeline options health).Reachable state.pipeline) ?_ ?_ _ reachable
  · rintro _ rfl
    exact .start rfl
  · intro state next before step
    rcases @ReplayStep.pipeline _ health _ _ _ step with same | stepped
    · rw [same]
      exact before
    · exact before.step stepped

end Runs

/-! ## When the station stops -/

section Stops

variable {decoders : Nat}

/-- Without a signal the station stops after a failure only. -/
structure StopsOnFailure (state : PipelineState decoders) : Prop where
  running : state.running = false → state.failure.isSome = true
  refused : state.main = .refused → state.failure.isSome = true

theorem fail_running {failure : Failure} {stage : FailStage} {state : PipelineState decoders}
    (stopped : (state.fail failure stage).running = false) :
    state.running = false ∨ stage = .clearing := by
  cases stage with
  | clearing => exact Or.inr rfl
  | _ => exact Or.inl stopped

/-- A failure that clears `running_` was recorded. -/
theorem StopsOnFailure.fail {state : PipelineState decoders} (before : StopsOnFailure state)
    {failure : Failure} {stage : FailStage} (stopping : state.Stopping stage)
    (stopped : (state.fail failure stage).running = false) :
    (state.fail failure stage).failure.isSome = true := by
  refine (fail_later failure stage state).failure ?_
  rcases fail_running stopped with earlier | rfl
  · exact before.running earlier
  · exact stopping

theorem stops_main {state next : PipelineState decoders} (inv : Shutdown state)
    (before : StopsOnFailure state) (step : MainStep state next) : StopsOnFailure next := by
  cases step with
  | refuses pushing pushed =>
      have place := inv.main
      rw [pushing] at place
      exact ⟨before.running, fun _ => place.1 (BlockingQueue.push_refused pushed).1⟩
  | stops refused => exact ⟨fun _ => before.refused refused, nofun⟩
  | @fails exn stage failing =>
      have place := inv.main
      rw [failing] at place
      refine ⟨fun stopped => before.fail place.2 stopped, fun here => ?_⟩
      cases stage <;> cases here
  | _ => exact ⟨before.running, nofun⟩

theorem StopsOnFailure.refused_later {state next : PipelineState decoders}
    (before : StopsOnFailure state) (later : Later state next) (same : next.main = state.main)
    (here : next.main = .refused) : next.failure.isSome = true :=
  later.failure (before.refused (same.symm.trans here))

theorem stops_decoder {i : Fin decoders} {state next : PipelineState decoders}
    (inv : Shutdown state) (before : StopsOnFailure state) (step : DecoderStep i state next) :
    StopsOnFailure next := by
  have refused := before.refused_later (decoderStep_later step) (decoderStep_frame step).1
  cases step with
  | @fails exn stage failing =>
      have place := inv.decoder i
      rw [failing] at place
      exact ⟨fun stopped => before.fail place stopped, refused⟩
  | _ => exact ⟨before.running, refused⟩

theorem stops_writer {options : Options} {state next : PipelineState decoders}
    (inv : Shutdown state) (before : StopsOnFailure state) (step : WriterStep options state next) :
    StopsOnFailure next := by
  have refused := before.refused_later (writerStep_later step) (writerStep_frame step).1
  cases step with
  | @fails failure stage failing =>
      have place := inv.writer
      rw [failing] at place
      exact ⟨fun stopped => before.fail place stopped, refused⟩
  | _ => exact ⟨before.running, refused⟩

theorem stopsOnFailure {options : Options} {health : StationHealthMonitor}
    {state : PipelineState options.decoderThreads}
    (reachable : (pipeline options health).Reachable state) : StopsOnFailure state := by
  refine System.invariant_of (fun _ reached => shutdown reached) ?_ ?_ reachable
  · rintro _ rfl
    exact ⟨nofun, nofun⟩
  · rintro state next inv before (step | ⟨i, step⟩ | step)
    · exact stops_main inv before step
    · exact stops_decoder inv before step
    · exact stops_writer inv before step

end Stops

/-! ## What is submitted -/

section Submitted

variable {decoders : Nat}

/-- The input stage is over. -/
def MainPc.PastInput : MainPc → Prop
  | closingRaw | joining _ | closingDecoded | joiningWriter | rethrowing | returned | threw _ => True
  | _ => False

/-- Behind the input stage by its end, or by a failure. -/
theorem mainStep_past {state next : PipelineState decoders} (inv : Shutdown state)
    (busy : state.main ≠ .receiving) (step : MainStep state next) (past : next.main.PastInput) :
    state.main.PastInput ∨ next.failure.isSome = true := by
  cases step with
  | ends receiving => exact absurd receiving busy
  | @fails exn stage failing =>
      have place := inv.main
      rw [failing] at place
      cases stage with
      | closingDecoded => exact Or.inr place.2.1
      | _ => exact past.elim
  | closesRaw closing => exact Or.inl (by rw [closing]; exact trivial)
  | joins joining below ended => exact Or.inl (by rw [joining]; exact trivial)
  | joinsAll joining => exact Or.inl (by rw [joining]; exact trivial)
  | closesDecoded closing => exact Or.inl (by rw [closing]; exact trivial)
  | joinsWriter joining ended => exact Or.inl (by rw [joining]; exact trivial)
  | returns rethrowing clean => exact Or.inl (by rw [rethrowing]; exact trivial)
  | rethrows rethrowing caught => exact Or.inl (by rw [rethrowing]; exact trivial)
  | _ => exact past.elim

theorem mainStep_submitted {state next : PipelineState decoders} (busy : state.main ≠ .receiving)
    (step : MainStep state next) : next.submitted = state.submitted := by
  cases step with
  | submits bytes receiving => exact absurd receiving busy
  | @fails exn stage failing => cases stage <;> rfl
  | _ => rfl

/-- The reader has the frames that are not yet submitted. -/
structure Replays (frames : List ByteVector) (state : ReplayState decoders) : Prop where
  reader : (state.reader = none ∧ state.pipeline.submitted = []) ∨
    ∃ rest, state.reader = some ⟨(rest.map record).flatten⟩ ∧
      frames = state.pipeline.submitted ++ rest
  past : state.pipeline.main.PastInput →
    state.pipeline.failure.isSome = true ∨ state.pipeline.submitted = frames

variable {frames : List ByteVector} {state : ReplayState decoders}

/-- A step that submits nothing. -/
theorem Replays.same (before : Replays frames state) {next : PipelineState decoders}
    (submitted : next.submitted = state.pipeline.submitted)
    (failure : state.pipeline.failure.isSome = true → next.failure.isSome = true)
    (past : next.main.PastInput → state.pipeline.main.PastInput ∨ next.failure.isSome = true) :
    Replays frames { state with pipeline := next } := by
  refine ⟨?_, fun later => ?_⟩
  · show (state.reader = none ∧ next.submitted = []) ∨
      ∃ rest, state.reader = some ⟨(rest.map record).flatten⟩ ∧ frames = next.submitted ++ rest
    rw [submitted]
    exact before.reader
  · show next.failure.isSome = true ∨ next.submitted = frames
    rw [submitted]
    rcases past later with earlier | failed
    · exact (before.past earlier).imp_left failure
    · exact Or.inl failed

end Submitted

section Replay

variable {options : Options} {health : StationHealthMonitor} {frames : List ByteVector}
  {state next : ReplayState options.decoderThreads}

theorem replays_step (valid : ∀ frame ∈ frames, replayLengthValid frame.length = true)
    (inv : Shutdown state.pipeline) (stops : StopsOnFailure state.pipeline)
    (before : Replays frames state) (step : ReplayStep options (capture frames) state next) :
    Replays frames next := by
  cases step with
  | @opens reader receiving unopened opened =>
      obtain rfl := Except.ok.inj ((create_capture frames).symm.trans opened)
      have empty : state.pipeline.submitted = [] := by
        rcases before.reader with ⟨_, empty⟩ | ⟨rest, some, _⟩
        · exact empty
        · rw [unopened] at some
          cases some
      refine ⟨Or.inr ⟨frames, rfl, by rw [empty]; rfl⟩, fun past => ?_⟩
      have past : state.pipeline.main.PastInput := past
      rw [receiving] at past
      exact past.elim
  | @submits reader next bytes receiving opened running read =>
      rcases before.reader with ⟨none, _⟩ | ⟨rest, some, whole⟩
      · rw [opened] at none
        cases none
      obtain rfl := Option.some.inj (opened.symm.trans some)
      cases rest with
      | nil => cases read
      | cons frame rest =>
          have member : frame ∈ frames := by
            rw [whole]
            exact List.mem_append_right _ (List.mem_cons_self ..)
          have got := readNext_record (valid frame member) (rest.map record).flatten
          obtain ⟨rfl, rfl⟩ := Prod.mk.inj (Option.some.inj (Except.ok.inj (got.symm.trans read)))
          refine ⟨Or.inr ⟨rest, rfl, ?_⟩, fun past => past.elim⟩
          rw [whole, List.append_cons]
  | @ends reader receiving opened ended =>
      refine ⟨before.reader, fun _ => ?_⟩
      show state.pipeline.failure.isSome = true ∨ state.pipeline.submitted = frames
      rcases ended with stopped | ended
      · exact Or.inl (stops.running stopped)
      · rcases before.reader with ⟨none, _⟩ | ⟨rest, some, whole⟩
        · rw [opened] at none
          cases none
        obtain rfl := Option.some.inj (opened.symm.trans some)
        cases rest with
        | nil =>
            rw [List.append_nil] at whole
            exact Or.inr whole.symm
        | cons frame rest =>
            have member : frame ∈ frames := by
              rw [whole]
              exact List.mem_append_right _ (List.mem_cons_self ..)
            have got := readNext_record (valid frame member) (rest.map record).flatten
            cases got.symm.trans ended
  | throws exn receiving => exact before.same rfl id fun past => past.elim
  | main busy step =>
      exact before.same (mainStep_submitted busy step) (mainStep_later step).failure
        (mainStep_past inv busy step)
  | decoder step =>
      refine before.same (decoderStep_submissions step).2.1 (decoderStep_later step).failure
        fun past => Or.inl ?_
      rw [← (decoderStep_frame step).1]
      exact past
  | writer step =>
      refine before.same (writerStep_submissions step).2.1 (writerStep_later step).failure
        fun past => Or.inl ?_
      rw [← (writerStep_frame step).1]
      exact past

/-- **A replay that returns has submitted the whole file.** -/
theorem replay_returned (valid : ∀ frame ∈ frames, replayLengthValid frame.length = true)
    (reachable : (replayStation options health (capture frames)).Reachable state)
    (returned : state.pipeline.main = .returned) : state.pipeline.submitted = frames := by
  have replays : Replays frames state := by
    refine @System.invariant_of _ _ (fun state => (pipeline options health).Reachable state.pipeline)
      (Replays frames) (fun _ reached => replay_reachable reached) ?_ ?_ _ reachable
    · rintro _ rfl
      exact ⟨Or.inl ⟨rfl, rfl⟩, fun past => past.elim⟩
    · intro state next reached before step
      exact replays_step valid (shutdown reached) (stopsOnFailure reached) before step
  have place := (shutdown (replay_reachable reachable)).main
  rw [returned] at place
  refine (replays.past (by rw [returned]; exact trivial)).resolve_left ?_
  rw [place.2.2.2]
  exact Bool.false_ne_true

end Replay

end Stgs.Station
