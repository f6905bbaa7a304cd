/-
# Station.Termination -- every thread can finish

The pipeline has a size: what is left of each thread, and of each item in the queues and
the writer's map (`Core.size`).  A step that takes no input and is nobody else's doing
makes it smaller (`CoreStep.smaller`).  The steps within a call leave it, and bring the
threads on in their calls (`Sync.rank`).  So the two together always come down, and as
nothing is ever stuck, they come down to the end (`never_stuck`).
-/
import Mathlib.Data.Prod.Lex
import Mathlib.Algebra.BigOperators.Fin
import Stgs.Concurrent.Rank
import Stgs.Station.Liveness

namespace Stgs.Station

open Stgs.Concurrent Stgs.Theory.Measure Stgs.Theory.Transition Stgs.Wire Relation

set_option autoImplicit false

/-! ## The size of the pipeline -/

/-- The calls left in `failPipeline`. -/
def FailStage.size : FailStage → Nat
  | capturing => 4
  | clearing => 3
  | closingRaw => 2
  | closingDecoded => 1

/-- An item weighs what it still has before it: in the writer's map, in the decoded queue,
in the raw queue. -/
def pendingSize : Nat := 8
def decodedSize : Nat := 18
def rawSize : Nat := 22

def MainPc.size (decoders : Nat) : MainPc → Nat
  | pushing _ => 30 + decoders
  | refused => 7 + decoders
  | counting => 7 + decoders
  | receiving => 6 + decoders
  | failing _ stage => 5 + decoders + stage.size
  | closingRaw => 5 + decoders
  | joining next => 4 + (decoders - next)
  | closingDecoded => 3
  | joiningWriter => 2
  | rethrowing => 1
  | returned | threw _ => 0

def DecoderPc.size : DecoderPc → Nat
  | decoding _ => 22
  | pushing _ => 21
  | failing _ stage => stage.size
  | logging => 2
  | popping => 1
  | done => 0

def WriterPc.size : WriterPc → Nat
  | inserting _ => 23
  | finding => 14
  | counting _ => 13
  | recording _ => 12
  | processing _ _ => 11
  | writing _ _ => 10
  | tallying _ _ => 9
  | logging _ => 8
  | erasing _ => 7
  | popping => 6
  | checking => 5
  | failing _ stage => stage.size
  | storing => 2
  | finishing => 1
  | completed | failed => 0

def ProgressPc.size : ProgressPc → Nat
  | sizingRaw => 3
  | sizingDecoded => 2
  | waiting => 1
  | done => 0

section Size

variable {decoders : Nat}

def PipelineState.itemsSize (state : PipelineState decoders) : Nat :=
  rawSize * state.rawQueue.queue.length + decodedSize * state.decodedQueue.queue.length +
    pendingSize * state.pending.length

def PipelineState.size (state : PipelineState decoders) : Nat :=
  state.main.size decoders + ∑ i, (state.decoder i).size + state.writer.size + state.itemsSize

def Core.size (core : Core decoders) : Nat := core.pipeline.size + core.progress.size

theorem fail_itemsSize (failure : Failure) (stage : FailStage) (state : PipelineState decoders) :
    (state.fail failure stage).itemsSize = state.itemsSize := by
  simp only [PipelineState.itemsSize, fail_rawQueue_queue, fail_decodedQueue_queue, fail_pending]

/-- The main thread moves, and perhaps an item with it. -/
theorem size_of_main {state next : PipelineState decoders} (decoder : next.decoder = state.decoder)
    (writer : next.writer = state.writer)
    (less : next.main.size decoders + next.itemsSize < state.main.size decoders + state.itemsSize) :
    next.size < state.size := by
  simp only [PipelineState.size, decoder, writer]
  omega

/-- The main thread takes no input. -/
theorem mainStep_smaller {state next : PipelineState decoders} (step : MainStep state next)
    (calm : ¬ ∃ exn, next.main = .failing exn .capturing)
    (same : next.nextSequence = state.nextSequence) : next.size < state.size := by
  cases step with
  | submits bytes receiving => exact absurd same (Nat.succ_ne_self _)
  | @pushes work queue pushing pushed =>
      refine size_of_main rfl rfl ?_
      have appended := (BlockingQueue.push_accepted pushed).2.2
      simp only [PipelineState.itemsSize, MainPc.size, pushing, appended,
        List.length_append, List.length_singleton, rawSize]
      omega
  | @refuses work queue pushing pushed =>
      refine size_of_main rfl rfl ?_
      obtain ⟨_, rfl⟩ := BlockingQueue.push_refused pushed
      simp only [PipelineState.itemsSize, MainPc.size, pushing]
      omega
  | stops refused =>
      refine size_of_main rfl rfl ?_
      simp only [PipelineState.itemsSize, MainPc.size, refused]
      omega
  | counts counting =>
      refine size_of_main rfl rfl ?_
      simp only [PipelineState.itemsSize, MainPc.size, counting]
      omega
  | ends receiving =>
      refine size_of_main rfl rfl ?_
      simp only [PipelineState.itemsSize, MainPc.size, receiving]
      omega
  | throws exn may => exact absurd ⟨exn, rfl⟩ calm
  | @fails exn stage failing =>
      refine size_of_main (fail_decoder ..) (fail_writer ..) ?_
      have items : PipelineState.itemsSize
          { state.fail (.environment exn) stage with main := .afterFail exn stage } =
          state.itemsSize := fail_itemsSize (.environment exn) stage state
      have less : (MainPc.afterFail exn stage).size decoders <
          (MainPc.failing exn stage).size decoders := by
        cases stage <;> simp [MainPc.afterFail, FailStage.next, MainPc.size, FailStage.size]
      rw [items, failing]
      exact Nat.add_lt_add_right less _
  | closesRaw closing =>
      refine size_of_main rfl rfl ?_
      simp only [PipelineState.itemsSize, MainPc.size, closing,
        BlockingQueue.close_queue]
      omega
  | joins joining below ended =>
      refine size_of_main rfl rfl ?_
      simp only [PipelineState.itemsSize, MainPc.size, joining]
      omega
  | joinsAll joining =>
      refine size_of_main rfl rfl ?_
      simp only [PipelineState.itemsSize, MainPc.size, joining]
      omega
  | closesDecoded closing =>
      refine size_of_main rfl rfl ?_
      simp only [PipelineState.itemsSize, MainPc.size, closing,
        BlockingQueue.close_queue]
      omega
  | joinsWriter joining ended =>
      refine size_of_main rfl rfl ?_
      simp only [PipelineState.itemsSize, MainPc.size, joining]
      omega
  | returns rethrowing clean =>
      refine size_of_main rfl rfl ?_
      simp only [PipelineState.itemsSize, MainPc.size, rethrowing]
      omega
  | rethrows rethrowing caught =>
      refine size_of_main rfl rfl ?_
      simp only [PipelineState.itemsSize, MainPc.size, rethrowing]
      omega

/-- A decoder moves, and perhaps an item with it. -/
theorem size_of_decoder {i : Fin decoders} {state next : PipelineState decoders} {after : DecoderPc}
    (update : next.decoder = Function.update state.decoder i after) (main : next.main = state.main)
    (writer : next.writer = state.writer)
    (less : after.size + next.itemsSize < (state.decoder i).size + state.itemsSize) :
    next.size < state.size := by
  have sum := sum_update DecoderPc.size state.decoder i after
  simp only [PipelineState.size, update, main, writer]
  omega

theorem decoderStep_smaller {i : Fin decoders} {state next : PipelineState decoders}
    (step : DecoderStep i state next) (calm : ¬ ∃ exn, next.decoder i = .failing exn .capturing) :
    next.size < state.size := by
  cases step with
  | @pops work queue popping popped =>
      refine size_of_decoder rfl rfl rfl ?_
      have front := (BlockingQueue.pop_value popped).1
      simp only [PipelineState.itemsSize, DecoderPc.size, popping, front, List.length_cons, rawSize]
      omega
  | finishes popping popped =>
      refine size_of_decoder rfl rfl rfl ?_
      obtain ⟨_, _, rfl⟩ := BlockingQueue.pop_nothing popped
      simp only [PipelineState.itemsSize, DecoderPc.size, popping]
      omega
  | decodes decoding =>
      refine size_of_decoder rfl rfl rfl ?_
      simp only [PipelineState.itemsSize, DecoderPc.size, decoding]
      omega
  | @pushes item queue pushing pushed =>
      refine size_of_decoder rfl rfl rfl ?_
      have appended := (BlockingQueue.push_accepted pushed).2.2
      simp only [PipelineState.itemsSize, DecoderPc.size, pushing, appended, List.length_append,
        List.length_singleton, decodedSize]
      omega
  | @refuses item queue pushing pushed =>
      refine size_of_decoder rfl rfl rfl ?_
      obtain ⟨_, rfl⟩ := BlockingQueue.push_refused pushed
      simp only [PipelineState.itemsSize, DecoderPc.size, pushing]
      omega
  | logs logging =>
      refine size_of_decoder rfl rfl rfl ?_
      simp only [PipelineState.itemsSize, DecoderPc.size, logging]
      omega
  | throws exn may => exact absurd ⟨exn, by simp⟩ calm
  | @fails exn stage failing =>
      refine size_of_decoder rfl (fail_main ..) (fail_writer ..) ?_
      have items : PipelineState.itemsSize
          { state.fail (.environment exn) stage with
            decoder := Function.update state.decoder i (.afterFail exn stage) } =
          state.itemsSize := fail_itemsSize (.environment exn) stage state
      have less : (DecoderPc.afterFail exn stage).size < (DecoderPc.failing exn stage).size := by
        cases stage <;> simp [DecoderPc.afterFail, FailStage.next, DecoderPc.size, FailStage.size]
      rw [items, failing]
      omega

/-- The writer moves, and perhaps an item with it. -/
theorem size_of_writer {state next : PipelineState decoders} (main : next.main = state.main)
    (decoder : next.decoder = state.decoder)
    (less : next.writer.size + next.itemsSize < state.writer.size + state.itemsSize) :
    next.size < state.size := by
  simp only [PipelineState.size, main, decoder]
  omega

variable {options : Options}

theorem handles_smaller {before after : WriterPc} {work next : WriterState}
    {updates later : List HealthUpdate}
    (handles : Handles options before work updates after next later) : after.size < before.size := by
  cases handles <;> simp [WriterPc.size]

/-- The writer erases only what is in its map. -/
theorem writerStep_smaller {state next : PipelineState decoders}
    (present : ∀ item, state.writer = .erasing item → item ∈ state.pending)
    (step : WriterStep options state next)
    (calm : ¬ ∃ exn, next.writer = .failing (.environment exn) .capturing) :
    next.size < state.size := by
  cases step with
  | @pops item queue popping popped =>
      refine size_of_writer rfl rfl ?_
      have front := (BlockingQueue.pop_value popped).1
      simp only [PipelineState.itemsSize, WriterPc.size, popping, front, List.length_cons, decodedSize]
      omega
  | drains popping popped =>
      refine size_of_writer rfl rfl ?_
      obtain ⟨_, _, rfl⟩ := BlockingQueue.pop_nothing popped
      simp only [PipelineState.itemsSize, WriterPc.size, popping]
      omega
  | inserts inserting fresh =>
      refine size_of_writer rfl rfl ?_
      simp only [PipelineState.itemsSize, WriterPc.size, inserting, List.length_cons, pendingSize]
      omega
  | duplicates inserting member same =>
      refine size_of_writer rfl rfl ?_
      simp only [PipelineState.itemsSize, WriterPc.size, FailStage.size, inserting]
      omega
  | finds finding member next =>
      refine size_of_writer rfl rfl ?_
      simp only [PipelineState.itemsSize, WriterPc.size, finding]
      omega
  | waits finding missing =>
      refine size_of_writer rfl rfl ?_
      simp only [PipelineState.itemsSize, WriterPc.size, finding]
      omega
  | handles handling =>
      refine size_of_writer rfl rfl ?_
      exact Nat.add_lt_add_right (handles_smaller handling) _
  | @erases item erasing =>
      refine size_of_writer rfl rfl ?_
      have shorter := List.length_erase_of_mem (present item erasing)
      have some := List.length_pos_of_mem (present item erasing)
      simp only [PipelineState.itemsSize, WriterPc.size, erasing, shorter, pendingSize]
      omega
  | checks checking empty =>
      refine size_of_writer rfl rfl ?_
      simp only [PipelineState.itemsSize, WriterPc.size, checking]
      omega
  | gap checking left =>
      refine size_of_writer rfl rfl ?_
      simp only [PipelineState.itemsSize, WriterPc.size, FailStage.size, checking]
      omega
  | stores storing =>
      refine size_of_writer rfl rfl ?_
      simp only [PipelineState.itemsSize, WriterPc.size, storing]
      omega
  | finishes finishing =>
      refine size_of_writer rfl rfl ?_
      simp only [PipelineState.itemsSize, WriterPc.size, finishing]
      omega
  | throwsPayload processing processed =>
      refine size_of_writer rfl rfl ?_
      simp only [PipelineState.itemsSize, WriterPc.size, FailStage.size, processing]
      omega
  | throws exn may => exact absurd ⟨exn, rfl⟩ calm
  | @fails failure stage failing =>
      refine size_of_writer (fail_main ..) (fail_decoder ..) ?_
      have items : PipelineState.itemsSize
          { state.fail failure stage with writer := .afterFail failure stage } =
          state.itemsSize := fail_itemsSize failure stage state
      have less : (WriterPc.afterFail failure stage).size < (WriterPc.failing failure stage).size := by
        cases stage <;> simp [WriterPc.afterFail, FailStage.next, WriterPc.size, FailStage.size]
      rw [items, failing]
      exact Nat.add_lt_add_right less _

variable {thread : ThreadId decoders} {core next : Core decoders}

/-- **Every step that is nobody else's doing makes the pipeline smaller.** -/
theorem CoreStep.smaller
    (present : ∀ item, core.pipeline.writer = .erasing item → item ∈ core.pipeline.pending)
    (step : CoreStep options core thread next) (calm : ¬ next.Disturbed thread)
    (same : next.pipeline.nextSequence = core.pipeline.nextSequence) : next.size < core.size := by
  cases step with
  | main step joined => exact Nat.add_lt_add_right (mainStep_smaller step calm same) _
  | decoder step => exact Nat.add_lt_add_right (decoderStep_smaller step calm) _
  | writer step => exact Nat.add_lt_add_right (writerStep_smaller present step calm) _
  | ticks waiting => exact absurd rfl calm
  | sizesRaw sizing =>
      simp only [Core.size, ProgressPc.size, sizing]
      omega
  | sizesDecoded sizing =>
      simp only [Core.size, ProgressPc.size, sizing]
      omega
  | stops waiting requested =>
      simp only [Core.size, ProgressPc.size, waiting]
      omega

end Size

/-! ## The threads -/

section Threads

variable {decoders : Nat} {options : Options} {thread : ThreadId decoders}
  {state next : ThreadedState decoders}

/-- What is left of the calls on both queues. -/
def ThreadedState.rank (state : ThreadedState decoders) : Nat :=
  (state.sync .raw).rank + (state.sync .decoded).rank

def ThreadedState.measure (state : ThreadedState decoders) : ℕ ×ₗ ℕ :=
  toLex (state.core.size, state.rank)

theorem rank_setSync {queue : QueueId} {sync : Sync (ThreadId decoders) queue.Item}
    (less : sync.rank < (state.sync queue).rank) : (state.setSync queue sync).rank < state.rank := by
  cases queue with
  | raw =>
      have other : (state.setSync .raw sync).sync .decoded = state.sync .decoded :=
        setSync_other _ _ (by decide)
      rw [ThreadedState.rank, setSync_self, other]
      exact Nat.add_lt_add_right less _
  | decoded =>
      have other : (state.setSync .decoded sync).sync .raw = state.sync .raw :=
        setSync_other _ _ (by decide)
      rw [ThreadedState.rank, setSync_self, other]
      exact Nat.add_lt_add_left less _

/-- **A step of its own that takes no input brings its thread on.** -/
theorem ThreadStep.smaller
    (present : ∀ item, state.core.pipeline.writer = .erasing item →
      item ∈ state.core.pipeline.pending)
    (step : ThreadStep options thread state .own next)
    (same : next.core.pipeline.nextSequence = state.core.pipeline.nextSequence) :
    next.measure < state.measure := by
  have inCall {queue : QueueId} {sync : Sync (ThreadId decoders) queue.Item}
      (less : sync.rank < (state.sync queue).rank) :
      (state.setSync queue sync).measure < state.measure :=
    Prod.Lex.toLex_lt_toLex.mpr (Or.inr ⟨rfl, rank_setSync less⟩)
  cases step with
  | works idle outside step calm exited =>
      exact Prod.Lex.toLex_lt_toLex.mpr (Or.inl (step.smaller present calm same))
  | acts acting acts returns step calm =>
      exact Prod.Lex.toLex_lt_toLex.mpr (Or.inl (step.smaller present calm same))
  | @invokes queue call idle calls => exact inCall (rank_less (idle queue) (Nat.lt_succ_self 3))
  | moves moves => exact inCall (moves_rank moves)
  | returns waking => exact inCall (rank_less waking (Nat.lt_succ_self 4))

/-- The thread has run to its end, its last call included. -/
def ThreadedState.Ended (state : ThreadedState decoders) (thread : ThreadId decoders) : Prop :=
  state.core.Finished thread ∧ state.Idle thread

/-- A thread takes a step of its own. -/
def OwnStep (options : Options) (state next : ThreadedState decoders) : Prop :=
  ∃ thread, ThreadStep options thread state .own next

end Threads

section NeverStuck

variable {options : Options} {health : StationHealthMonitor}
  {state : ThreadedState options.decoderThreads}

/-- The writer erases what is in its map. -/
theorem Threaded.present (threaded : Threaded options health state) (item : DecodedWorkItem)
    (erasing : state.core.pipeline.writer = .erasing item) : item ∈ state.core.pipeline.pending := by
  have healthy : state.core.pipeline.WriterHealthy := by
    rw [PipelineState.WriterHealthy, erasing]
    simp
  have place := (writerAccounts threaded.reachable healthy).place
  rw [erasing] at place
  exact place.1

/-- **While a thread has not ended, some thread has a step.** -/
theorem Threaded.advances (threaded : Threaded options health state)
    (some : 0 < options.decoderThreads) (unfinished : ¬ ∀ thread, state.Ended thread) :
    Advances options state := by
  by_contra stuck
  refine unfinished fun thread => ?_
  have blocked := blocked_of_stuck threaded.locks threaded.calls threaded.blamed threaded.ends stuck
  have finished := blocked.finished threaded.shutdown threaded.ends some thread
  exact ⟨finished, idle_of_stuck threaded.locks threaded.calls stuck finished.call⟩

/-- Steps of their own bring all threads to their end. -/
theorem Threaded.finishes (start : Threaded options health state)
    (some : 0 < options.decoderThreads) :
    ∃ last, ReflTransGen (OwnStep options) state last ∧ Threaded options health last ∧
      ∀ thread, last.Ended thread := by
  refine reaches ThreadedState.measure (fun state threaded unfinished => ?_) start
  obtain ⟨thread, next, step, same⟩ := threaded.advances some unfinished
  exact ⟨next, ⟨thread, step⟩, threaded_step threaded step, step.smaller threaded.present same⟩

/-- What `run` throws is the exception recorded first. -/
theorem Threaded.outcome (threaded : Threaded options health state) {exn : Exn}
    (threw : state.core.pipeline.main = .threw exn) :
    ∃ failure, state.captured.head? = some failure ∧ exn = failure.exn := by
  have recorded := threaded.ends.threw exn threw
  obtain ⟨failure, first, same⟩ := Option.map_eq_some_iff.mp recorded
  exact ⟨failure, threaded.recorded.symm.trans first, same.symm⟩

/-- The pipeline is not stuck, can finish, and throws what went wrong first. -/
structure NeverStuck (options : Options) {decoders : Nat} (state : ThreadedState decoders) :
    Prop where
  moves : (∃ thread, ¬ state.Ended thread) → ∃ next, OwnStep options state next
  joins : ∃ last, ReflTransGen (OwnStep options) state last ∧ ∀ thread, last.Ended thread
  throws : state.core.Finished .main →
    ((∃ exn, state.core.pipeline.main = .threw exn) ↔ state.captured ≠ [])
  first : ∀ exn, state.core.pipeline.main = .threw exn →
    ∃ failure, state.captured.head? = some failure ∧ exn = failure.exn

/-- **The pipeline never gets stuck once its workers are started**, whatever the number of
decoders, the capacity of the queues, the interleaving and the failures: while a thread
has not ended some thread has a step of its own, and such steps lead to a state in which
all have, the workers joined; and `run` throws if and only if an exception was captured,
the one captured first. -/
theorem never_stuck (some : 0 < options.decoderThreads)
    (reachable : (threads options health).Reachable state) : NeverStuck options state := by
  have threaded := threaded reachable
  refine ⟨fun ⟨thread, unfinished⟩ => ?_, ?_, fun finished => ⟨?_, fun captured => ?_⟩, ?_⟩
  · obtain ⟨mover, next, step, _⟩ :=
      threaded.advances some fun ended => unfinished (ended thread)
    exact ⟨next, mover, step⟩
  · obtain ⟨last, run, _, ended⟩ := threaded.finishes some
    exact ⟨last, run, ended⟩
  · rintro ⟨exn, threw⟩ none
    obtain ⟨failure, first, _⟩ := threaded.outcome threw
    rw [none] at first
    cases first
  · rcases finished with returned | threw
    · have place := threaded.shutdown.main
      rw [returned] at place
      have clean := threaded.recorded.symm.trans place.2.2.2
      exact absurd (List.head?_eq_none_iff.mp clean) captured
    · exact threw
  · exact fun exn threw => threaded.outcome threw

theorem never_stuck_udp : NeverStuck udpOptions
    ({ core := { pipeline := .initial udpOptions freshWriter.health } } :
      ThreadedState udpOptions.decoderThreads) :=
  @never_stuck udpOptions freshWriter.health _ (by decide) (.start rfl)

end NeverStuck

end Stgs.Station
