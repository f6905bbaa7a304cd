/-
# Station.Threads -- the pipeline with its mutexes and condition variables

In `Station.Pipeline` a call on a queue is one step, and a call that waits is no step at
all.  Here each call locks, waits, acts, unlocks and notifies as `Concurrent.Monitor`
says, on either of the two queues; the progress thread, which reads their sizes, is one
more thread that locks.  A thread's next step outside a call waits until the call has
returned, and so does who joins the thread.

Steps are of two kinds.  `own` is what a thread does when it is scheduled.
`disturbance` is what nobody may rely on: an exception, a spurious wake-up, the timer
of the progress thread.

With the locks forgotten every step is a step of `Station.Pipeline` or none
(`ThreadStep.core`, `CoreStep.pipeline`).
-/
import Stgs.Concurrent.Wakeups
import Stgs.Station.Reorder

namespace Stgs.Station

open Stgs.Concurrent Stgs.Theory.Transition Stgs.Wire

set_option autoImplicit false

/-- The two queues. -/
inductive QueueId where
  | raw
  | decoded
deriving DecidableEq

abbrev QueueId.Item : QueueId → Type
  | raw => RawWorkItem
  | decoded => DecodedWorkItem

inductive ThreadId (decoders : Nat) where
  | main
  | decoder (i : Fin decoders)
  | writer
  | progress
deriving DecidableEq, Fintype

/-- `progressLoop`: waiting for its timer, or asking a queue for its size. -/
inductive ProgressPc where
  | waiting
  | sizingRaw
  | sizingDecoded
  | done
deriving DecidableEq

/-- The pipeline without its locks. -/
structure Core (decoders : Nat) where
  pipeline : PipelineState decoders
  progress : ProgressPc := .waiting

/-! ## The calls of a thread -/

/-- A call on one of the queues. -/
abbrev QueueCall := (queue : QueueId) × Call queue.Item

def FailStage.call : FailStage → Option QueueCall
  | closingRaw => some ⟨.raw, .close⟩
  | closingDecoded => some ⟨.decoded, .close⟩
  | _ => none

def MainPc.call : MainPc → Option QueueCall
  | pushing work => some ⟨.raw, .push work⟩
  | failing _ stage => stage.call
  | closingRaw => some ⟨.raw, .close⟩
  | closingDecoded => some ⟨.decoded, .close⟩
  | _ => none

def DecoderPc.call : DecoderPc → Option QueueCall
  | popping => some ⟨.raw, .pop⟩
  | pushing item => some ⟨.decoded, .push item⟩
  | failing _ stage => stage.call
  | _ => none

def WriterPc.call : WriterPc → Option QueueCall
  | popping => some ⟨.decoded, .pop⟩
  | failing _ stage => stage.call
  | _ => none

def ProgressPc.call : ProgressPc → Option QueueCall
  | sizingRaw => some ⟨.raw, .size⟩
  | sizingDecoded => some ⟨.decoded, .size⟩
  | _ => none

/-- Whom the main thread joins. -/
def MainPc.Awaits {decoders : Nat} : MainPc → ThreadId decoders → Prop
  | joining next, .decoder i => i = next
  | joiningWriter, .writer => True
  | rethrowing, .progress => True
  | _, _ => False

def MainPc.capturing : MainPc → List Failure
  | failing exn .capturing => [.environment exn]
  | _ => []

def DecoderPc.capturing : DecoderPc → List Failure
  | failing exn .capturing => [.environment exn]
  | _ => []

def WriterPc.capturing : WriterPc → List Failure
  | failing failure .capturing => [failure]
  | _ => []

namespace Core

variable {decoders : Nat}

def queue (core : Core decoders) : (queue : QueueId) → BlockingQueue queue.Item
  | .raw => core.pipeline.rawQueue
  | .decoded => core.pipeline.decodedQueue

/-- The call a thread is at. -/
def call (core : Core decoders) : ThreadId decoders → Option QueueCall
  | .main => core.pipeline.main.call
  | .decoder i => (core.pipeline.decoder i).call
  | .writer => core.pipeline.writer.call
  | .progress => core.progress.call

/-- The exception a thread is about to record. -/
def capturing (core : Core decoders) : ThreadId decoders → List Failure
  | .main => core.pipeline.main.capturing
  | .decoder i => (core.pipeline.decoder i).capturing
  | .writer => core.pipeline.writer.capturing
  | .progress => []

def Finished (core : Core decoders) : ThreadId decoders → Prop
  | .main => core.pipeline.main = .returned ∨ ∃ exn, core.pipeline.main = .threw exn
  | .decoder i => core.pipeline.decoder i = .done
  | .writer => core.pipeline.writer = .completed ∨ core.pipeline.writer = .failed
  | .progress => core.progress = .done

/-- A step that came from outside: an exception, or the timer. -/
def Disturbed (core : Core decoders) : ThreadId decoders → Prop
  | .main => ∃ exn, core.pipeline.main = .failing exn .capturing
  | .decoder i => ∃ exn, core.pipeline.decoder i = .failing exn .capturing
  | .writer => ∃ exn, core.pipeline.writer = .failing (.environment exn) .capturing
  | .progress => core.progress = .sizingRaw

end Core

section Steps

variable {decoders : Nat}

/-- A step of a thread, calls taken as one.  After the writer `stopWorkers` stops the
progress thread and joins it. -/
inductive CoreStep (options : Options) (core : Core decoders) :
    ThreadId decoders → Core decoders → Prop where
  | main {next : PipelineState decoders} (step : MainStep core.pipeline next)
      (joined : core.pipeline.main = .rethrowing → core.progress = .done) :
      CoreStep options core .main { core with pipeline := next }
  | decoder {i : Fin decoders} {next : PipelineState decoders}
      (step : DecoderStep i core.pipeline next) :
      CoreStep options core (.decoder i) { core with pipeline := next }
  | writer {next : PipelineState decoders} (step : WriterStep options core.pipeline next) :
      CoreStep options core .writer { core with pipeline := next }
  | ticks (waiting : core.progress = .waiting) :
      CoreStep options core .progress { core with progress := .sizingRaw }
  | sizesRaw (sizing : core.progress = .sizingRaw) :
      CoreStep options core .progress { core with progress := .sizingDecoded }
  | sizesDecoded (sizing : core.progress = .sizingDecoded) :
      CoreStep options core .progress { core with progress := .waiting }
  | stops (waiting : core.progress = .waiting) (requested : core.pipeline.main = .rethrowing) :
      CoreStep options core .progress { core with progress := .done }

/-- The pipeline with its locks.  `aborted` and `captured` are history: whether an
insertion threw, and the exceptions recorded, in order. -/
structure ThreadedState (decoders : Nat) where
  core : Core decoders
  sync : (queue : QueueId) → Sync (ThreadId decoders) queue.Item := fun _ => {}
  aborted : QueueId → Bool := fun _ => false
  captured : List Failure := []

def ThreadedState.setSync (state : ThreadedState decoders) (queue : QueueId)
    (sync : Sync (ThreadId decoders) queue.Item) : ThreadedState decoders :=
  { state with sync := Function.update state.sync queue sync }

/-- The thread is in no call. -/
def ThreadedState.Idle (state : ThreadedState decoders) (thread : ThreadId decoders) : Prop :=
  ∀ queue, (state.sync queue).phase thread = .idle

inductive StepKind where
  | own
  | disturbance
deriving DecidableEq

inductive ThreadStep (options : Options) (thread : ThreadId decoders)
    (state : ThreadedState decoders) : StepKind → ThreadedState decoders → Prop where
  | works {next : Core decoders} (idle : state.Idle thread)
      (outside : state.core.call thread = none) (step : CoreStep options state.core thread next)
      (calm : ¬ next.Disturbed thread)
      (exited : thread = .main → ∀ other, state.core.pipeline.main.Awaits other → state.Idle other) :
      ThreadStep options thread state .own
        { state with core := next, captured := state.captured ++ state.core.capturing thread }
  | throws {next : Core decoders} (idle : state.Idle thread)
      (step : CoreStep options state.core thread next) (disturbed : next.Disturbed thread) :
      ThreadStep options thread state .disturbance
        { state with core := next, captured := state.captured ++ state.core.capturing thread }
  | invokes {queue : QueueId} {call : Call queue.Item} (idle : state.Idle thread)
      (calls : state.core.call thread = some ⟨queue, call⟩) :
      ThreadStep options thread state .own
        (state.setSync queue ((state.sync queue).set thread (.locking call)))
  | moves {queue : QueueId} {sync : Sync (ThreadId decoders) queue.Item}
      (moves : Moves (state.core.queue queue) thread (state.sync queue) sync) :
      ThreadStep options thread state .own (state.setSync queue sync)
  | stirs {queue : QueueId} {call : Call queue.Item}
      (waiting : (state.sync queue).phase thread = .waiting call) :
      ThreadStep options thread state .disturbance
        (state.setSync queue ((state.sync queue).set thread (.locking call)))
  | acts {queue : QueueId} {call : Call queue.Item} {outcome : Outcome queue.Item}
      {next : Core decoders} (acting : (state.sync queue).phase thread = .acting call)
      (acts : Acts (state.core.queue queue) call outcome (next.queue queue))
      (returns : outcome ≠ .threw) (step : CoreStep options state.core thread next)
      (calm : ¬ next.Disturbed thread) :
      ThreadStep options thread state .own
        { state.setSync queue ((state.sync queue).set thread (.leaving call outcome)) with
          core := next }
  | aborts {queue : QueueId} {value : queue.Item} {next : Core decoders}
      (acting : (state.sync queue).phase thread = .acting (.push value))
      (isOpen : (state.core.queue queue).closed = false)
      (step : CoreStep options state.core thread next) (disturbed : next.Disturbed thread) :
      ThreadStep options thread state .disturbance
        { state.setSync queue ((state.sync queue).set thread (.leaving (.push value) .threw)) with
          core := next
          aborted := Function.update state.aborted queue true }
  | returns {queue : QueueId} {call : Call queue.Item} {outcome : Outcome queue.Item}
      (waking : (state.sync queue).phase thread = .waking call outcome []) :
      ThreadStep options thread state .own
        (state.setSync queue ((state.sync queue).set thread .idle))

end Steps

/-- **The pipeline under any interleaving of its threads.** -/
def threads (options : Options) (health : StationHealthMonitor) :
    System (ThreadedState options.decoderThreads) where
  start state := state = { core := { pipeline := .initial options health } }
  step state next := ∃ thread kind, ThreadStep options thread state kind next

/-! ## Forgetting the locks -/

/-- A step does nothing to the pipeline, or a step of one thread. -/
theorem ThreadStep.core {decoders : Nat} {options : Options} {thread : ThreadId decoders}
    {state next : ThreadedState decoders} {kind : StepKind}
    (step : ThreadStep options thread state kind next) :
    next.core = state.core ∨ CoreStep options state.core thread next.core := by
  cases step with
  | works idle outside step calm exited => exact Or.inr step
  | throws idle step disturbed => exact Or.inr step
  | acts acting acts returns step calm => exact Or.inr step
  | aborts acting isOpen step disturbed => exact Or.inr step
  | _ => exact Or.inl rfl

theorem CoreStep.pipeline {options : Options} {health : StationHealthMonitor}
    {thread : ThreadId options.decoderThreads} {core next : Core options.decoderThreads}
    (step : CoreStep options core thread next) :
    next.pipeline = core.pipeline ∨
      (pipeline options health).step core.pipeline next.pipeline := by
  cases step with
  | main step joined => exact Or.inr (Or.inl step)
  | decoder step => exact Or.inr (Or.inr (Or.inl ⟨_, step⟩))
  | writer step => exact Or.inr (Or.inr (Or.inr step))
  | _ => exact Or.inl rfl

/-! ## What a step leaves alone -/

section Frame

variable {decoders : Nat}

/-- A step changes a queue only as the call of its thread, and not if it throws. -/
def Touches (call : Option QueueCall) (disturbed : Prop) (queue : QueueId) : Prop :=
  (∃ own : Call queue.Item, call = some ⟨queue, own⟩) ∧ ¬ disturbed

theorem fail_queues (failure : Failure) (stage : FailStage) (state : PipelineState decoders) :
    ((state.fail failure stage).rawQueue = state.rawQueue ∨ stage = .closingRaw) ∧
      ((state.fail failure stage).decodedQueue = state.decodedQueue ∨ stage = .closingDecoded) := by
  cases stage with
  | closingRaw => exact ⟨Or.inr rfl, Or.inl rfl⟩
  | closingDecoded => exact ⟨Or.inl rfl, Or.inr rfl⟩
  | _ => exact ⟨Or.inl rfl, Or.inl rfl⟩

theorem mainStep_queues {state next : PipelineState decoders} (step : MainStep state next) :
    (next.rawQueue = state.rawQueue ∨
        Touches state.main.call (∃ exn, next.main = .failing exn .capturing) .raw) ∧
      (next.decodedQueue = state.decodedQueue ∨
        Touches state.main.call (∃ exn, next.main = .failing exn .capturing) .decoded) := by
  cases step with
  | pushes pushing pushed =>
      exact ⟨Or.inr ⟨⟨_, by rw [pushing]; rfl⟩, by simp⟩, Or.inl rfl⟩
  | refuses pushing pushed =>
      exact ⟨Or.inr ⟨⟨_, by rw [pushing]; rfl⟩, by simp⟩, Or.inl rfl⟩
  | @fails exn stage failing =>
      obtain ⟨raw, decoded⟩ := fail_queues (.environment exn) stage state
      refine ⟨raw.imp_right ?_, decoded.imp_right ?_⟩
      · rintro rfl
        exact ⟨⟨_, by rw [failing]; rfl⟩, by simp [MainPc.afterFail, FailStage.next]⟩
      · rintro rfl
        exact ⟨⟨_, by rw [failing]; rfl⟩, by simp [MainPc.afterFail, FailStage.next]⟩
  | closesRaw closing => exact ⟨Or.inr ⟨⟨_, by rw [closing]; rfl⟩, by simp⟩, Or.inl rfl⟩
  | closesDecoded closing => exact ⟨Or.inl rfl, Or.inr ⟨⟨_, by rw [closing]; rfl⟩, by simp⟩⟩
  | _ => exact ⟨Or.inl rfl, Or.inl rfl⟩

theorem decoderStep_queues {i : Fin decoders} {state next : PipelineState decoders}
    (step : DecoderStep i state next) :
    (next.rawQueue = state.rawQueue ∨
        Touches (state.decoder i).call (∃ exn, next.decoder i = .failing exn .capturing) .raw) ∧
      (next.decodedQueue = state.decodedQueue ∨
        Touches (state.decoder i).call (∃ exn, next.decoder i = .failing exn .capturing)
          .decoded) := by
  cases step with
  | pops popping popped =>
      exact ⟨Or.inr ⟨⟨_, by rw [popping]; rfl⟩, by simp⟩, Or.inl rfl⟩
  | finishes popping popped =>
      exact ⟨Or.inr ⟨⟨_, by rw [popping]; rfl⟩, by simp⟩, Or.inl rfl⟩
  | pushes pushing pushed =>
      exact ⟨Or.inl rfl, Or.inr ⟨⟨_, by rw [pushing]; rfl⟩, by simp⟩⟩
  | refuses pushing pushed =>
      exact ⟨Or.inl rfl, Or.inr ⟨⟨_, by rw [pushing]; rfl⟩, by simp⟩⟩
  | @fails exn stage failing =>
      obtain ⟨raw, decoded⟩ := fail_queues (.environment exn) stage state
      refine ⟨raw.imp_right ?_, decoded.imp_right ?_⟩
      · rintro rfl
        exact ⟨⟨_, by rw [failing]; rfl⟩, by simp [DecoderPc.afterFail, FailStage.next]⟩
      · rintro rfl
        exact ⟨⟨_, by rw [failing]; rfl⟩, by simp [DecoderPc.afterFail, FailStage.next]⟩
  | _ => exact ⟨Or.inl rfl, Or.inl rfl⟩

theorem writerStep_queues {options : Options} {state next : PipelineState decoders}
    (step : WriterStep options state next) :
    (next.rawQueue = state.rawQueue ∨
        Touches state.writer.call (∃ exn, next.writer = .failing (.environment exn) .capturing)
          .raw) ∧
      (next.decodedQueue = state.decodedQueue ∨
        Touches state.writer.call (∃ exn, next.writer = .failing (.environment exn) .capturing)
          .decoded) := by
  cases step with
  | pops popping popped =>
      exact ⟨Or.inl rfl, Or.inr ⟨⟨_, by rw [popping]; rfl⟩, by simp⟩⟩
  | drains popping popped =>
      exact ⟨Or.inl rfl, Or.inr ⟨⟨_, by rw [popping]; rfl⟩, by simp⟩⟩
  | @fails failure stage failing =>
      obtain ⟨raw, decoded⟩ := fail_queues failure stage state
      refine ⟨raw.imp_right ?_, decoded.imp_right ?_⟩
      · rintro rfl
        exact ⟨⟨_, by rw [failing]; rfl⟩, by simp [WriterPc.afterFail, FailStage.next]⟩
      · rintro rfl
        exact ⟨⟨_, by rw [failing]; rfl⟩, by simp [WriterPc.afterFail, FailStage.next]⟩
  | _ => exact ⟨Or.inl rfl, Or.inl rfl⟩

variable {options : Options} {thread : ThreadId decoders} {core next : Core decoders}

/-- **A step leaves every queue it has no call on**, and all of them if it throws. -/
theorem CoreStep.queue (step : CoreStep options core thread next) (queue : QueueId) :
    next.queue queue = core.queue queue ∨
      Touches (core.call thread) (next.Disturbed thread) queue := by
  cases step with
  | main step joined =>
      cases queue with
      | raw => exact (mainStep_queues step).1
      | decoded => exact (mainStep_queues step).2
  | decoder step =>
      cases queue with
      | raw => exact (decoderStep_queues step).1
      | decoded => exact (decoderStep_queues step).2
  | writer step =>
      cases queue with
      | raw => exact (writerStep_queues step).1
      | decoded => exact (writerStep_queues step).2
  | _ => exact Or.inl (by cases queue <;> rfl)

/-- A step of a decoder is of that decoder. -/
theorem decoderStep_update {i : Fin decoders} {state next : PipelineState decoders}
    (step : DecoderStep i state next) :
    ∃ after, next.decoder = Function.update state.decoder i after := by
  cases step <;> exact ⟨_, rfl⟩

/-- Where a thread is. -/
inductive Place (decoders : Nat) where
  | main (pc : MainPc)
  | decoder (pc : DecoderPc)
  | writer (pc : WriterPc)
  | progress (pc : ProgressPc)

def Core.place (core : Core decoders) : ThreadId decoders → Place decoders
  | .main => .main core.pipeline.main
  | .decoder i => .decoder (core.pipeline.decoder i)
  | .writer => .writer core.pipeline.writer
  | .progress => .progress core.progress

/-- **A step leaves the other threads where they are.** -/
theorem CoreStep.place (step : CoreStep options core thread next) {other : ThreadId decoders}
    (apart : other ≠ thread) : next.place other = core.place other := by
  cases step with
  | main step joined =>
      obtain ⟨decoder, writer, _, _⟩ := mainStep_frame step
      cases other with
      | main => exact absurd rfl apart
      | decoder i => simp only [Core.place, decoder]
      | writer => simp only [Core.place, writer]
      | progress => rfl
  | @decoder i next step =>
      obtain ⟨main, writer, _⟩ := decoderStep_frame step
      obtain ⟨after, update⟩ := decoderStep_update step
      cases other with
      | main => simp only [Core.place, main]
      | decoder j =>
          have different : j ≠ i := fun same => apart (congrArg ThreadId.decoder same)
          simp only [Core.place, update, Function.update_of_ne different]
      | writer => simp only [Core.place, writer]
      | progress => rfl
  | writer step =>
      obtain ⟨main, decoder, _⟩ := writerStep_frame step
      cases other with
      | main => simp only [Core.place, main]
      | decoder i => simp only [Core.place, decoder]
      | writer => exact absurd rfl apart
      | progress => rfl
  | _ =>
      cases other with
      | progress => exact absurd rfl apart
      | _ => rfl

/-- A thread's calls and its end depend on where it is. -/
theorem call_of_place {other : ThreadId decoders} (same : next.place other = core.place other) :
    next.call other = core.call other := by
  cases other with
  | main => rw [Core.call, Core.call, Place.main.inj same]
  | decoder i => rw [Core.call, Core.call, Place.decoder.inj same]
  | writer => rw [Core.call, Core.call, Place.writer.inj same]
  | progress => rw [Core.call, Core.call, Place.progress.inj same]

end Frame

end Stgs.Station
