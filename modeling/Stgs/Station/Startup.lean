/-
# Station.Startup -- a thread that cannot be created

`run` calls `startWorkers` ahead of its `try`.  When the creation of a thread throws,
neither `failPipeline` nor `stopWorkers` is called: the exception leaves `run`, and the
pipeline is destroyed, its members in reverse order of their declaration.  The
destructor of a `std::jthread` requests a stop and joins; of the threads only the
progress thread looks at the request, the others wait in `pop` for an item or a closed
queue.

The threads are numbered from one in the order of their creation: the progress thread,
the writer, the decoders.  What they do is `CoreStep`, with the main thread of the
pipeline left where it starts; `StartupPc` is where it really is.
-/
import Mathlib.Data.Finset.Basic
import Mathlib.Data.Fintype.Basic
import Stgs.Station.Threads

namespace Stgs.Station

open Stgs.Concurrent Stgs.Theory.Transition Relation

set_option autoImplicit false

/-- `startWorkers`, and the destructor of the pipeline.  `left` are the decoders that the
destructor of their vector has still before it, in any order. -/
inductive StartupPc (decoders : Nat) where
  | creating
  | destroyingDecoders (left : Finset (Fin decoders))
  | joiningDecoder (i : Fin decoders) (left : Finset (Fin decoders))
  | joiningWriter
  | joiningProgress
  | destroyed

/-- The number of a thread in the order of creation. -/
def ThreadId.number {decoders : Nat} : ThreadId decoders → Nat
  | main => 0
  | progress => 1
  | writer => 2
  | decoder i => i + 3

structure StartupState (decoders : Nat) where
  core : Core decoders
  created : Nat := 0
  main : StartupPc decoders := .creating

namespace StartupState

variable {decoders : Nat}

def Started (state : StartupState decoders) (thread : ThreadId decoders) : Prop :=
  thread ≠ .main ∧ thread.number ≤ state.created

instance (state : StartupState decoders) (thread : ThreadId decoders) :
    Decidable (state.Started thread) := inferInstanceAs (Decidable (_ ∧ _))

/-- The decoders in the vector. -/
def startedDecoders (state : StartupState decoders) : Finset (Fin decoders) :=
  Finset.univ.filter fun i => state.Started (.decoder i)

/-- The destructor of a thread that was started is in its `join`. -/
def Joins (state : StartupState decoders) : ThreadId decoders → Prop
  | .decoder i => state.Started (.decoder i) ∧ ∃ left, state.main = .joiningDecoder i left
  | .writer => state.Started .writer ∧ state.main = .joiningWriter
  | .progress => state.Started .progress ∧ state.main = .joiningProgress
  | .main => False

end StartupState

/-- A step when the creation of thread number `failing` throws.  A thread that was not
started is not joined. -/
inductive StartupStep {decoders : Nat} (options : Options) (failing : Nat)
    (state : StartupState decoders) : StepKind → StartupState decoders → Prop where
  | creates (creating : state.main = .creating) (early : state.created + 1 < failing) :
      StartupStep options failing state .own { state with created := state.created + 1 }
  | throws (creating : state.main = .creating) (here : state.created + 1 = failing) :
      StartupStep options failing state .own
        { state with main := .destroyingDecoders state.startedDecoders }
  | works {thread : ThreadId decoders} {next : Core decoders} (started : state.Started thread)
      (step : CoreStep options state.core thread next) (calm : ¬ next.Disturbed thread) :
      StartupStep options failing state .own { state with core := next }
  | disturbs {thread : ThreadId decoders} {next : Core decoders} (started : state.Started thread)
      (step : CoreStep options state.core thread next) (disturbed : next.Disturbed thread) :
      StartupStep options failing state .disturbance { state with core := next }
  | stops (started : state.Started .progress) (waiting : state.core.progress = .waiting)
      (requested : state.main = .joiningProgress) :
      StartupStep options failing state .own
        { state with core := { state.core with progress := .done } }
  | reaches {i : Fin decoders} {left : Finset (Fin decoders)}
      (destroying : state.main = .destroyingDecoders left) (member : i ∈ left) :
      StartupStep options failing state .own { state with main := .joiningDecoder i (left.erase i) }
  | joinsDecoder {i : Fin decoders} {left : Finset (Fin decoders)}
      (joining : state.main = .joiningDecoder i left) (ended : state.core.Finished (.decoder i)) :
      StartupStep options failing state .own { state with main := .destroyingDecoders left }
  | destroysDecoders (destroying : state.main = .destroyingDecoders ∅) :
      StartupStep options failing state .own { state with main := .joiningWriter }
  | joinsWriter (joining : state.main = .joiningWriter)
      (ended : state.Started .writer → state.core.Finished .writer) :
      StartupStep options failing state .own { state with main := .joiningProgress }
  | joinsProgress (joining : state.main = .joiningProgress)
      (ended : state.Started .progress → state.core.Finished .progress) :
      StartupStep options failing state .own { state with main := .destroyed }

/-- `run` on a pipeline whose thread number `failing` cannot be created, up to the end of
the destructor. -/
def failedStartup (options : Options) (health : StationHealthMonitor) (failing : Nat) :
    System (StartupState options.decoderThreads) where
  start state := state = { core := { pipeline := .initial options health } }
  step state next := ∃ kind, StartupStep options failing state kind next

/-- What its threads do by themselves, without an exception or a timer. -/
abbrev StartupState.Reaches {decoders : Nat} (options : Options) (failing : Nat) :
    StartupState decoders → StartupState decoders → Prop :=
  ReflTransGen fun state next => StartupStep options failing state .own next

/-- **The failure is cleaned up**: in every interleaving both queues are closed before a
writer or a decoder is joined, and nothing keeps the pipeline from being destroyed. -/
structure CleanedUp (options : Options) (health : StationHealthMonitor) (failing : Nat) : Prop where
  closed : ∀ state, (failedStartup options health failing).Reachable state →
    ∀ thread, state.Joins thread → thread ≠ .progress →
      state.core.pipeline.rawQueue.closed = true ∧ state.core.pipeline.decodedQueue.closed = true
  destroyed : ∀ state, (failedStartup options health failing).Reachable state →
    ∃ next, StartupState.Reaches options failing state next ∧ next.main = .destroyed

/-! ## Neither writer nor decoder was started -/

section Early

variable {options : Options} {failing : Nat}

/-- At most the progress thread was created. -/
structure Early {decoders : Nat} (failing : Nat) (state : StartupState decoders) : Prop where
  created : state.created ≤ 1
  below : state.created < failing
  main : state.main = .creating ∨ state.main = .destroyingDecoders ∅ ∨
    state.main = .joiningWriter ∨ state.main = .joiningProgress ∨ state.main = .destroyed

theorem Early.not_started {decoders : Nat} {state : StartupState decoders}
    (early : Early failing state) {thread : ThreadId decoders} (late : 2 ≤ thread.number) :
    ¬ state.Started thread := by
  rintro ⟨_, started⟩
  have created := early.created
  omega

theorem Early.step {decoders : Nat} (few : failing ≤ 2) {state next : StartupState decoders}
    {kind : StepKind} (early : Early failing state)
    (step : StartupStep options failing state kind next) : Early failing next := by
  obtain ⟨created, below, main⟩ := early
  have none : state.startedDecoders = ∅ := by
    refine Finset.filter_eq_empty_iff.mpr fun i _ => ?_
    exact Early.not_started ⟨created, below, main⟩ (by simp [ThreadId.number])
  cases step with
  | creates creating early =>
      refine ⟨?_, early, Or.inl creating⟩
      show state.created + 1 ≤ 1
      omega
  | throws creating here => exact ⟨created, below, Or.inr (Or.inl (congrArg _ none))⟩
  | works started step calm => exact ⟨created, below, main⟩
  | disturbs started step disturbed => exact ⟨created, below, main⟩
  | stops started waiting requested => exact ⟨created, below, main⟩
  | reaches destroying member =>
      simp only [destroying, reduceCtorEq, StartupPc.destroyingDecoders.injEq, false_or,
        or_false] at main
      rw [main] at member
      exact absurd member (Finset.notMem_empty _)
  | joinsDecoder joining ended => simp [joining] at main
  | destroysDecoders destroying => exact ⟨created, below, by simp⟩
  | joinsWriter joining ended => exact ⟨created, below, by simp⟩
  | joinsProgress joining ended => exact ⟨created, below, by simp⟩

/-- The progress thread sees the request, and is joined. -/
theorem Early.joins_progress {decoders : Nat} {state : StartupState decoders}
    (joining : state.main = .joiningProgress) :
    ∃ next, StartupState.Reaches options failing state next ∧ next.main = .destroyed := by
  by_cases started : state.Started .progress
  · have ends (state : StartupState decoders) (joining : state.main = .joiningProgress)
        (done : state.core.progress = .done) :
        ∃ next, StartupState.Reaches options failing state next ∧ next.main = .destroyed :=
      ⟨_, .single (.joinsProgress joining fun _ => done), rfl⟩
    have waits (state : StartupState decoders) (started : state.Started .progress)
        (joining : state.main = .joiningProgress) (waiting : state.core.progress = .waiting) :
        ∃ next, StartupState.Reaches options failing state next ∧ next.main = .destroyed := by
      obtain ⟨next, path, destroyed⟩ :=
        ends { state with core := { state.core with progress := .done } } joining rfl
      exact ⟨next, .head (.stops started waiting joining) path, destroyed⟩
    have sizes (state : StartupState decoders) (started : state.Started .progress)
        (joining : state.main = .joiningProgress) (sizing : state.core.progress = .sizingDecoded) :
        ∃ next, StartupState.Reaches options failing state next ∧ next.main = .destroyed := by
      obtain ⟨next, path, destroyed⟩ :=
        waits { state with core := { state.core with progress := .waiting } } started joining rfl
      exact ⟨next, .head (.works started (.sizesDecoded sizing) (by simp [Core.Disturbed])) path,
        destroyed⟩
    cases progress : state.core.progress with
    | done => exact ends state joining progress
    | waiting => exact waits state started joining progress
    | sizingDecoded => exact sizes state started joining progress
    | sizingRaw =>
        obtain ⟨next, path, destroyed⟩ :=
          sizes { state with core := { state.core with progress := .sizingDecoded } } started
            joining rfl
        exact ⟨next, .head (.works started (.sizesRaw progress) (by simp [Core.Disturbed])) path,
          destroyed⟩
  · exact ⟨_, .single (.joinsProgress joining fun yes => absurd yes started), rfl⟩

/-- **Nothing is in the way of the destructor.** -/
theorem Early.destroyed {decoders : Nat} (few : failing ≤ 2) {state : StartupState decoders}
    (early : Early failing state) :
    ∃ next, StartupState.Reaches options failing state next ∧ next.main = .destroyed := by
  have writer (state : StartupState decoders) (early : Early failing state)
      (joining : state.main = .joiningWriter) :
      ∃ next, StartupState.Reaches options failing state next ∧ next.main = .destroyed := by
    have step : StartupStep options failing state .own { state with main := .joiningProgress } :=
      .joinsWriter joining fun started => absurd started (early.not_started (Nat.le_refl 2))
    obtain ⟨next, path, destroyed⟩ := @Early.joins_progress options failing _
      { state with main := .joiningProgress } rfl
    exact ⟨next, .head step path, destroyed⟩
  have vector (state : StartupState decoders) (early : Early failing state)
      (destroying : state.main = .destroyingDecoders ∅) :
      ∃ next, StartupState.Reaches options failing state next ∧ next.main = .destroyed := by
    have step : StartupStep options failing state .own { state with main := .joiningWriter } :=
      .destroysDecoders destroying
    obtain ⟨next, path, destroyed⟩ := writer _ (early.step few step) rfl
    exact ⟨next, .head step path, destroyed⟩
  have creation (state : StartupState decoders) (early : Early failing state)
      (creating : state.main = .creating) (here : state.created + 1 = failing) :
      ∃ next, StartupState.Reaches options failing state next ∧ next.main = .destroyed := by
    have step : StartupStep options failing state .own
        { state with main := .destroyingDecoders state.startedDecoders } := .throws creating here
    have next := early.step few step
    obtain ⟨last, path, destroyed⟩ := vector _ next (by simpa using next.main)
    exact ⟨last, .head step path, destroyed⟩
  rcases early.main with creating | destroying | joining | joining | done
  · have below := early.below
    by_cases here : state.created + 1 = failing
    · exact creation state early creating here
    · have step : StartupStep options failing state .own
          { state with created := state.created + 1 } := .creates creating (by omega)
      have next := early.step few step
      obtain ⟨last, path, destroyed⟩ := creation _ next creating (by
        have := next.created
        simp only at this ⊢
        omega)
      exact ⟨last, .head step path, destroyed⟩
  · exact vector state early destroying
  · exact writer state early joining
  · exact Early.joins_progress joining
  · exact ⟨state, .refl, done⟩

end Early

/-! ## The writer waits for ever -/

section Stuck

variable {decoders : Nat} {options : Options} {failing : Nat}

/-- The destructor is at work on threads that wait in `pop`, and both queues are open. -/
structure Stuck (state : StartupState decoders) : Prop where
  created : 2 ≤ state.created
  raw : state.core.pipeline.rawQueue.closed = false ∧ state.core.pipeline.rawQueue.queue = []
  decoded : state.core.pipeline.decodedQueue.closed = false ∧
    state.core.pipeline.decodedQueue.queue = []
  decoder : ∀ i, state.core.pipeline.decoder i = .popping
  writer : state.core.pipeline.writer = .popping
  main : (∃ left, state.main = .destroyingDecoders left) ∨
    (∃ i left, state.main = .joiningDecoder i left) ∨ state.main = .joiningWriter

theorem pop_waits {α : Type} {queue : BlockingQueue α}
    (waits : queue.closed = false ∧ queue.queue = []) : queue.pop = none := by
  cases popped : queue.pop with
  | none => rfl
  | some result =>
      obtain ⟨item, after⟩ := result
      cases item with
      | none =>
          have closed := (BlockingQueue.pop_nothing popped).1
          rw [waits.1] at closed
          cases closed
      | some value =>
          have front := (BlockingQueue.pop_value popped).1
          rw [waits.2] at front
          cases front

/-- A waiting decoder does nothing by itself. -/
theorem decoder_waits {i : Fin decoders} {state next : PipelineState decoders}
    (popping : state.decoder i = .popping) (waits : state.rawQueue.pop = none)
    (step : DecoderStep i state next) : ∃ exn, next.decoder i = .failing exn .capturing := by
  cases step with
  | pops at_ popped => rw [waits] at popped; cases popped
  | finishes at_ popped => rw [waits] at popped; cases popped
  | decodes at_ => rw [popping] at at_; cases at_
  | pushes at_ pushed => rw [popping] at at_; cases at_
  | refuses at_ pushed => rw [popping] at at_; cases at_
  | logs at_ => rw [popping] at at_; cases at_
  | throws exn may => exact ⟨exn, Function.update_self ..⟩
  | fails at_ => rw [popping] at at_; cases at_

/-- Nor does a waiting writer. -/
theorem writer_waits {state next : PipelineState decoders} (popping : state.writer = .popping)
    (waits : state.decodedQueue.pop = none) (step : WriterStep options state next) :
    ∃ exn, next.writer = .failing (.environment exn) .capturing := by
  cases step with
  | pops at_ popped => rw [waits] at popped; cases popped
  | drains at_ popped => rw [waits] at popped; cases popped
  | throws exn may => exact ⟨exn, rfl⟩
  | handles handling => rw [popping] at handling; cases handling
  | inserts at_ => rw [popping] at at_; cases at_
  | duplicates at_ => rw [popping] at at_; cases at_
  | finds at_ => rw [popping] at at_; cases at_
  | waits at_ => rw [popping] at at_; cases at_
  | erases at_ => rw [popping] at at_; cases at_
  | checks at_ => rw [popping] at at_; cases at_
  | gap at_ => rw [popping] at at_; cases at_
  | stores at_ => rw [popping] at at_; cases at_
  | finishes at_ => rw [popping] at at_; cases at_
  | throwsPayload at_ => rw [popping] at at_; cases at_
  | fails at_ => rw [popping] at at_; cases at_

/-- **A stuck destructor stays stuck**: no thread goes on by itself. -/
theorem Stuck.step {state next : StartupState decoders} (stuck : Stuck state)
    (step : StartupStep options failing state .own next) : Stuck next := by
  obtain ⟨created, raw, decoded, decoder, writer, main⟩ := stuck
  have ended (thread : ThreadId decoders) (worker : 2 ≤ thread.number) :
      ¬ state.core.Finished thread := by
    cases thread with
    | main => cases worker
    | progress => exact absurd worker (by simp [ThreadId.number])
    | writer => simp [Core.Finished, writer]
    | decoder i => simp [Core.Finished, decoder i]
  cases step with
  | creates creating early => simp [creating] at main
  | throws creating here => simp [creating] at main
  | works started step calm =>
      cases step with
      | main step joined => exact absurd rfl started.1
      | decoder step => exact absurd (decoder_waits (decoder _) (pop_waits raw) step) calm
      | writer step => exact absurd (writer_waits writer (pop_waits decoded) step) calm
      | _ => exact ⟨created, raw, decoded, decoder, writer, main⟩
  | stops started waiting requested => simp [requested] at main
  | reaches destroying member =>
      exact ⟨created, raw, decoded, decoder, writer, Or.inr (Or.inl ⟨_, _, rfl⟩)⟩
  | joinsDecoder joining finished =>
      exact absurd finished (ended (.decoder _) (by simp [ThreadId.number]))
  | destroysDecoders destroying =>
      exact ⟨created, raw, decoded, decoder, writer, Or.inr (Or.inr rfl)⟩
  | joinsWriter joining finished =>
      exact absurd (finished ⟨by simp, created⟩) (ended .writer (Nat.le_refl 2))
  | joinsProgress joining finished => simp [joining] at main

theorem Stuck.not_destroyed {state next : StartupState decoders} (stuck : Stuck state)
    (path : StartupState.Reaches options failing state next) : next.main ≠ .destroyed := by
  have still : Stuck next := by
    induction path with
    | refl => exact stuck
    | tail _ step ih => exact ih.step step
  intro destroyed
  have main := still.main
  simp [destroyed] at main

end Stuck

/-- From the third thread on a join finds an open queue. -/
theorem reaches_stuck (options : Options) (health : StationHealthMonitor) {failing : Nat}
    (late : 2 < failing) : ∃ state, (failedStartup options health failing).Reachable state ∧
      Stuck state ∧ ∃ thread, state.Joins thread ∧ thread ≠ .progress := by
  have created (count : Nat) (early : count < failing) :
      (failedStartup options health failing).Reachable
        { core := { pipeline := .initial options health }, created := count } := by
    induction count with
    | zero => exact .start rfl
    | succ count ih => exact .step (ih (Nat.lt_of_succ_lt early)) ⟨_, .creates rfl early⟩
  have before := created (failing - 1) (by omega)
  have thrown := before.step ⟨_, .throws rfl (by show failing - 1 + 1 = failing; omega)⟩
  have two : 2 ≤ failing - 1 := by omega
  rcases Finset.eq_empty_or_nonempty (StartupState.startedDecoders
      { core := { pipeline := .initial options health }, created := failing - 1 }) with
    none | ⟨i, member⟩
  · rw [none] at thrown
    exact ⟨_, thrown.step ⟨_, .destroysDecoders rfl⟩,
      ⟨two, ⟨rfl, rfl⟩, ⟨rfl, rfl⟩, fun _ => rfl, rfl, Or.inr (Or.inr rfl)⟩,
      .writer, ⟨⟨by simp, two⟩, rfl⟩, by simp⟩
  · have started := (Finset.mem_filter.mp member).2
    exact ⟨_, thrown.step ⟨_, .reaches rfl member⟩,
      ⟨two, ⟨rfl, rfl⟩, ⟨rfl, rfl⟩, fun _ => rfl, rfl, Or.inr (Or.inl ⟨_, _, rfl⟩)⟩,
      .decoder i, ⟨started, _, rfl⟩, by simp⟩

/-- **A failure to create a thread is cleaned up exactly when neither the writer nor a
decoder had been created.**  Otherwise the destructor comes to join one of them on open
queues, and without an exception from outside it never ends. -/
theorem startup_cleaned_up_iff (options : Options) (health : StationHealthMonitor)
    {failing : Nat} (positive : 1 ≤ failing) :
    (CleanedUp options health failing ↔ failing ≤ 2) ∧
    (2 < failing → ∃ state, (failedStartup options health failing).Reachable state ∧
      (∃ thread, state.Joins thread ∧ thread ≠ .progress) ∧
      state.core.pipeline.rawQueue.closed = false ∧
      state.core.pipeline.decodedQueue.closed = false ∧
      ∀ next, StartupState.Reaches options failing state next → next.main ≠ .destroyed) := by
  refine ⟨⟨fun cleaned => ?_, fun few => ?_⟩, fun late => ?_⟩
  · by_contra late
    obtain ⟨state, reachable, stuck, thread, joins, worker⟩ :=
      reaches_stuck options health (Nat.lt_of_not_le late)
    have closed := (cleaned.closed state reachable thread joins worker).1
    rw [stuck.raw.1] at closed
    cases closed
  · have early : ∀ state, (failedStartup options health failing).Reachable state → Early failing state := by
      intro state reachable
      refine System.invariant ?_ ?_ reachable
      · rintro _ rfl
        exact ⟨Nat.zero_le 1, positive, Or.inl rfl⟩
      · rintro state next early ⟨kind, step⟩
        exact early.step few step
    refine ⟨fun state reachable thread joins worker => ?_, fun state reachable =>
      (early state reachable).destroyed few⟩
    have started : 2 ≤ thread.number → ¬ state.Started thread :=
      (early state reachable).not_started
    cases thread with
    | main => exact joins.elim
    | progress => exact absurd rfl worker
    | writer => exact absurd joins.1 (started (Nat.le_refl 2))
    | decoder i => exact absurd joins.1 (started (by simp [ThreadId.number]))
  · obtain ⟨state, reachable, stuck, joined⟩ := reaches_stuck options health late
    exact ⟨state, reachable, joined, stuck.raw.1, stuck.decoded.1, fun _ => stuck.not_destroyed⟩

/-- The first thread that cannot be created. -/
theorem startup_cleaned_up_first :
    CleanedUp { decoderThreads := 1 } freshWriter.health 1 :=
  (@startup_cleaned_up_iff { decoderThreads := 1 } freshWriter.health 1
    (Nat.le_refl 1)).1.mpr (by decide)

/-- The only decoder cannot be created: the writer, alone, waits for ever. -/
theorem startup_not_cleaned_up : ¬ CleanedUp { decoderThreads := 1 } freshWriter.health 3 := by
  intro cleaned
  obtain ⟨state, reachable, stuck, _⟩ :=
    @reaches_stuck { decoderThreads := 1 } freshWriter.health 3 (by decide)
  obtain ⟨next, path, destroyed⟩ := cleaned.destroyed state reachable
  exact stuck.not_destroyed path destroyed

end Stgs.Station
