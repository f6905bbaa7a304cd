/-
# Station.ThreadInvariants -- what holds in every state of the threads

The invariants (`Threaded`): each queue has its mutual exclusion and its wake-up
account; a thread inside a call is at that call, in one queue only; an insertion threw
only on a thread that is failing, or the queue is closed by now; the recorded exception
is the first one captured.
-/
import Stgs.Station.Threads

namespace Stgs.Station

open Stgs.Concurrent Stgs.Theory.Transition Stgs.Wire

set_option autoImplicit false

/-! ## The invariants -/

section Threaded

variable {decoders : Nat}

/-- The thread is in `failPipeline`. -/
def Core.Failing (core : Core decoders) : ThreadId decoders → Prop
  | .main => ∃ exn stage, core.pipeline.main = .failing exn stage
  | .decoder i => ∃ exn stage, core.pipeline.decoder i = .failing exn stage
  | .writer => ∃ failure stage, core.pipeline.writer = .failing failure stage
  | .progress => False

/-- Each queue with its locks. -/
def Locks (state : ThreadedState decoders) : Prop :=
  ∀ queue, SyncOk (state.core.queue queue) (state.sync queue) ∧
    WakeOk (state.core.queue queue) (state.sync queue) (state.aborted queue)

/-- A thread that has not acted yet is at its call, and in one queue only. -/
structure Calls (state : ThreadedState decoders) : Prop where
  calling : ∀ queue thread call, ((state.sync queue).phase thread).Seeks call →
    state.core.call thread = some ⟨queue, call⟩
  single : ∀ queue other thread, (state.sync queue).phase thread ≠ .idle → other ≠ queue →
    (state.sync other).phase thread = .idle

@[simp] theorem setSync_self (state : ThreadedState decoders) (queue : QueueId)
    (sync : Sync (ThreadId decoders) queue.Item) :
    (state.setSync queue sync).sync queue = sync := Function.update_self ..

theorem setSync_other (state : ThreadedState decoders) {queue other : QueueId}
    (sync : Sync (ThreadId decoders) queue.Item) (apart : other ≠ queue) :
    (state.setSync queue sync).sync other = state.sync other := Function.update_of_ne apart ..

variable {options : Options} {thread : ThreadId decoders} {state next : ThreadedState decoders}
  {kind : StepKind}

/-- A step without a call, or one that throws, leaves both queues. -/
theorem CoreStep.queue_same {core next : Core decoders}
    (step : CoreStep options core thread next)
    (elsewhere : core.call thread = none ∨ next.Disturbed thread) (queue : QueueId) :
    next.queue queue = core.queue queue := by
  refine (step.queue queue).resolve_right ?_
  rintro ⟨⟨own, calls⟩, calm⟩
  rcases elsewhere with none | disturbed
  · rw [none] at calls
    cases calls
  · exact calm disturbed

/-- A call on one queue leaves the other. -/
theorem CoreStep.queue_other {core next : Core decoders} {queue other : QueueId}
    {call : Call queue.Item} (step : CoreStep options core thread next)
    (calls : core.call thread = some ⟨queue, call⟩) (apart : other ≠ queue) :
    next.queue other = core.queue other := by
  refine (step.queue other).resolve_right ?_
  rintro ⟨⟨own, same⟩, _⟩
  rw [calls] at same
  exact apart (congrArg Sigma.fst (Option.some.inj same)).symm

/-- One queue's locks change. -/
theorem Locks.setSync (locks : Locks state) {queue : QueueId}
    {sync : Sync (ThreadId decoders) queue.Item}
    (changed : SyncOk (state.core.queue queue) sync ∧
      WakeOk (state.core.queue queue) sync (state.aborted queue)) :
    Locks (state.setSync queue sync) := by
  intro other
  by_cases this : other = queue
  · subst this
    rw [setSync_self]
    exact changed
  · rw [setSync_other _ _ this]
    exact locks other

/-- The queues change, the locks do not. -/
theorem Locks.core (locks : Locks state) {core : Core decoders} {captured : List Failure}
    (same : ∀ queue, core.queue queue = state.core.queue queue) :
    Locks { state with core, captured } := by
  intro queue
  show SyncOk (core.queue queue) _ ∧ WakeOk (core.queue queue) _ _
  rw [same queue]
  exact locks queue

theorem locks_step (locks : Locks state) (calls : Calls state)
    (step : ThreadStep options thread state kind next) : Locks next := by
  cases step with
  | works idle outside step calm exited => exact locks.core (step.queue_same (Or.inl outside))
  | throws idle step disturbed => exact locks.core (step.queue_same (Or.inr disturbed))
  | @invokes queue call idle calls =>
      exact locks.setSync ⟨(locks queue).1.outside (idle queue) id id nofun,
        (locks queue).2.invoke (idle queue) call⟩
  | @moves queue sync moves =>
      exact locks.setSync ⟨(locks queue).1.moves moves, (locks queue).2.moves moves⟩
  | @stirs queue call waiting =>
      exact locks.setSync ⟨(locks queue).1.outside waiting id id nofun, (locks queue).2.wake waiting⟩
  | @acts queue call outcome core acting acts returns step calm =>
      have at' : state.core.call thread = some ⟨queue, call⟩ :=
        calls.calling queue thread call (by rw [acting]; rfl)
      intro other
      by_cases this : other = queue
      · subst this
        show SyncOk (core.queue other) ((state.setSync other _).sync other) ∧
          WakeOk (core.queue other) ((state.setSync other _).sync other) _
        rw [setSync_self]
        exact ⟨(locks other).1.act acting outcome _, (locks other).2.act acting acts returns⟩
      · show SyncOk (core.queue other) ((state.setSync queue _).sync other) ∧
          WakeOk (core.queue other) ((state.setSync queue _).sync other) _
        rw [setSync_other _ _ this, step.queue_other at' this]
        exact locks other
  | @aborts queue value core acting isOpen step disturbed =>
      have same := step.queue_same (Or.inr disturbed)
      intro other
      show SyncOk (core.queue other) ((state.setSync queue _).sync other) ∧
        WakeOk (core.queue other) ((state.setSync queue _).sync other)
          (Function.update state.aborted queue true other)
      by_cases this : other = queue
      · subst this
        rw [setSync_self, Function.update_self, same]
        exact ⟨(locks other).1.act acting .threw _, (locks other).2.abort acting⟩
      · rw [setSync_other _ _ this, Function.update_of_ne this, same]
        exact locks other
  | @returns queue call outcome waking =>
      exact locks.setSync ⟨(locks queue).1.outside waking id id nofun, (locks queue).2.finish waking⟩

/-- One queue's phases change: a thread enters a call only from outside both queues, and
only its own. -/
theorem Calls.setSync (calls : Calls state) {queue : QueueId}
    {sync : Sync (ThreadId decoders) queue.Item}
    (enters : ∀ other, sync.phase other ≠ .idle →
      (state.sync queue).phase other ≠ .idle ∨ state.Idle other)
    (seeks : ∀ other call, (sync.phase other).Seeks call →
      state.core.call other = some ⟨queue, call⟩) : Calls (state.setSync queue sync) := by
  refine ⟨fun place other call seeking => ?_, fun place elsewhere other busy apart => ?_⟩
  · by_cases this : place = queue
    · subst this
      rw [setSync_self] at seeking
      exact seeks other call seeking
    · rw [setSync_other _ _ this] at seeking
      exact calls.calling place other call seeking
  · by_cases this : place = queue
    · subst this
      rw [setSync_self] at busy
      rw [setSync_other _ _ apart]
      rcases enters other busy with before | idle
      · exact calls.single place elsewhere other before apart
      · exact idle elsewhere
    · rw [setSync_other _ _ this] at busy
      by_cases that : elsewhere = queue
      · subst that
        rw [setSync_self]
        by_contra now
        rcases enters other now with before | idle
        · exact busy (calls.single elsewhere place other before this)
        · exact busy (idle place)
      · rw [setSync_other _ _ that]
        exact calls.single place elsewhere other busy apart

/-- One thread's phase changes in one queue. -/
theorem Calls.set (calls : Calls state) {queue : QueueId} {after : Phase queue.Item}
    (enters : after ≠ .idle → (state.sync queue).phase thread ≠ .idle ∨ state.Idle thread)
    (seeks : ∀ call, after.Seeks call → state.core.call thread = some ⟨queue, call⟩) :
    Calls (state.setSync queue ((state.sync queue).set thread after)) := by
  refine calls.setSync (fun other busy => ?_) (fun other call seeking => ?_)
  · by_cases this : other = thread
    · subst this
      rw [Sync.set_self] at busy
      exact enters busy
    · rw [Sync.set_other _ _ this] at busy
      exact Or.inl busy
  · by_cases this : other = thread
    · subst this
      rw [Sync.set_self] at seeking
      exact seeks call seeking
    · rw [Sync.set_other _ _ this] at seeking
      exact calls.calling queue other call seeking

/-- A thread that seeks nothing takes a step. -/
theorem Calls.core (calls : Calls state) {core : Core decoders} {captured : List Failure}
    {aborted : QueueId → Bool}
    (step : CoreStep options state.core thread core)
    (free : ∀ queue call, ¬ ((state.sync queue).phase thread).Seeks call) :
    Calls { state with core, captured, aborted } := by
  refine ⟨fun queue other call seeking => ?_, calls.single⟩
  by_cases this : other = thread
  · subst this
    exact absurd seeking (free queue call)
  · exact (call_of_place (step.place this)).trans (calls.calling queue other call seeking)

/-- A thread that has just acted seeks nothing. -/
theorem Calls.acted (calls : Calls state) {queue : QueueId} {call : Call queue.Item}
    {outcome : Outcome queue.Item}
    (acting : (state.sync queue).phase thread = .acting call) :
    Calls (state.setSync queue ((state.sync queue).set thread (.leaving call outcome))) ∧
      ∀ place own, ¬ (((state.setSync queue
        ((state.sync queue).set thread (.leaving call outcome))).sync place).phase
          thread).Seeks own := by
  have busy : (state.sync queue).phase thread ≠ .idle := by simp [acting]
  refine ⟨calls.set (fun _ => Or.inl busy) nofun, fun place own => ?_⟩
  by_cases this : place = queue
  · subst this
    rw [setSync_self, Sync.set_self]
    exact id
  · rw [setSync_other _ _ this, calls.single queue place thread busy this]
    exact id

theorem calls_step (calls : Calls state) (step : ThreadStep options thread state kind next) :
    Calls next := by
  cases step with
  | works idle outside step calm exited =>
      exact calls.core step fun queue call => by rw [idle queue]; exact id
  | throws idle step disturbed =>
      exact calls.core step fun queue call => by rw [idle queue]; exact id
  | @invokes queue call idle at' =>
      refine calls.set (fun _ => Or.inr idle) fun own seeking => ?_
      obtain rfl : call = own := seeking
      exact at'
  | @moves queue sync moves =>
      refine calls.setSync (fun other busy => Or.inl ?_) (fun other call seeking => ?_)
      · exact fun idle => busy ((moves.call other).1.mpr idle)
      · exact calls.calling queue other call ((moves.call other).2 call seeking)
  | @stirs queue call waiting =>
      refine calls.set (fun _ => Or.inl (by simp [waiting])) fun own seeking => ?_
      obtain rfl : call = own := seeking
      exact calls.calling queue thread call (by rw [waiting]; rfl)
  | acts acting acts returns step calm =>
      obtain ⟨after, free⟩ := calls.acted acting
      exact after.core step free
  | aborts acting isOpen step disturbed =>
      obtain ⟨after, free⟩ := calls.acted acting
      exact after.core step free
  | returns waking => exact calls.set (fun busy => absurd rfl busy) nofun

/-! ## Failures -/

theorem MainPc.MayThrow.capturing {pc : MainPc} (may : pc.MayThrow) : pc.capturing = [] := by
  cases pc with
  | failing exn stage => exact may.elim
  | _ => rfl

theorem DecoderPc.MayThrow.capturing {pc : DecoderPc} (may : pc.MayThrow) : pc.capturing = [] := by
  cases pc with
  | failing exn stage => exact may.elim
  | _ => rfl

theorem WriterPc.MayThrow.capturing {pc : WriterPc} (may : pc.MayThrow) : pc.capturing = [] := by
  cases pc with
  | failing failure stage => exact may.elim
  | _ => rfl

theorem fail_recorded (failure : Failure) (stage : FailStage) (state : PipelineState decoders) :
    (state.fail failure stage).failure =
      if stage = .capturing then state.failure.or (some failure) else state.failure := by
  cases stage <;> rfl

theorem mainStep_failure {state next : PipelineState decoders} (step : MainStep state next) :
    next.failure = state.failure.or state.main.capturing.head? := by
  cases step with
  | @fails exn stage failing =>
      show (state.fail (.environment exn) stage).failure = _
      rw [fail_recorded, failing]
      cases stage <;> simp [MainPc.capturing]
  | throws exn may => simp [may.capturing]
  | _ => simp_all [MainPc.capturing]

theorem decoderStep_failure {i : Fin decoders} {state next : PipelineState decoders}
    (step : DecoderStep i state next) :
    next.failure = state.failure.or (state.decoder i).capturing.head? := by
  cases step with
  | @fails exn stage failing =>
      show (state.fail (.environment exn) stage).failure = _
      rw [fail_recorded, failing]
      cases stage <;> simp [DecoderPc.capturing]
  | throws exn may => simp [may.capturing]
  | _ => simp_all [DecoderPc.capturing]

theorem writerStep_failure {state next : PipelineState decoders}
    (step : WriterStep options state next) :
    next.failure = state.failure.or state.writer.capturing.head? := by
  cases step with
  | @fails failure stage failing =>
      show (state.fail failure stage).failure = _
      rw [fail_recorded, failing]
      cases stage <;> simp [WriterPc.capturing]
  | throws exn may => simp [may.capturing]
  | handles handling => simp [(handles_mayThrow handling).1.capturing]
  | _ => simp_all [WriterPc.capturing]

/-- What a step records. -/
theorem CoreStep.failure {core next : Core decoders} (step : CoreStep options core thread next) :
    next.pipeline.failure = core.pipeline.failure.or (core.capturing thread).head? := by
  cases step with
  | main step joined => exact mainStep_failure step
  | decoder step => exact decoderStep_failure step
  | writer step => exact writerStep_failure step
  | _ => simp [Core.capturing]

/-- A thread at a call records nothing. -/
theorem capturing_of_call {core : Core decoders} {calls : QueueCall}
    (at' : core.call thread = some calls) : core.capturing thread = [] := by
  cases thread with
  | main =>
      simp only [Core.call, Core.capturing] at at' ⊢
      cases here : core.pipeline.main with
      | failing exn stage =>
          rw [here] at at'
          cases stage <;> first | rfl | cases at'
      | _ => rfl
  | decoder i =>
      simp only [Core.call, Core.capturing] at at' ⊢
      cases here : core.pipeline.decoder i with
      | failing exn stage =>
          rw [here] at at'
          cases stage <;> first | rfl | cases at'
      | _ => rfl
  | writer =>
      simp only [Core.call, Core.capturing] at at' ⊢
      cases here : core.pipeline.writer with
      | failing failure stage =>
          rw [here] at at'
          cases stage <;> first | rfl | cases at'
      | _ => rfl
  | progress => rfl

/-- **The recorded exception is the first one captured.** -/
theorem recorded_step (calls : Calls state)
    (recorded : state.core.pipeline.failure = state.captured.head?)
    (step : ThreadStep options thread state kind next) :
    next.core.pipeline.failure = next.captured.head? := by
  have acted {queue : QueueId} {call : Call queue.Item} {core : Core decoders}
      (acting : (state.sync queue).phase thread = .acting call)
      (step : CoreStep options state.core thread core) :
      core.pipeline.failure = state.captured.head? := by
    have at' := calls.calling queue thread call (by rw [acting]; rfl)
    rw [step.failure, capturing_of_call at', recorded]
    simp
  cases step with
  | works idle outside step calm exited => rw [step.failure, recorded, List.head?_append]
  | throws idle step disturbed => rw [step.failure, recorded, List.head?_append]
  | acts acting acts returns step calm => exact acted acting step
  | aborts acting isOpen step disturbed => exact acted acting step
  | _ => exact recorded

theorem CoreStep.later {core next : Core decoders} (step : CoreStep options core thread next) :
    Later core.pipeline next.pipeline := by
  cases step with
  | main step joined => exact mainStep_later step
  | decoder step => exact decoderStep_later step
  | writer step => exact writerStep_later step
  | _ => exact ⟨id, .refl _, .refl _⟩

theorem CoreStep.closed {core next : Core decoders} (step : CoreStep options core thread next)
    (queue : QueueId) (closed : (core.queue queue).closed = true) :
    (next.queue queue).closed = true := by
  cases queue with
  | raw => exact step.later.raw.closed closed
  | decoded => exact step.later.decoded.closed closed

/-- The last call of `failPipeline` leaves both queues closed. -/
theorem fail_last {failure : Failure} {stage : FailStage} {state : PipelineState decoders}
    (stopping : state.Stopping stage) (last : stage.next = none) :
    (state.fail failure stage).rawQueue.closed = true ∧
      (state.fail failure stage).decodedQueue.closed = true := by
  cases stage with
  | closingDecoded => exact ⟨stopping.2, rfl⟩
  | _ => cases last

theorem both_closed {core : Core decoders}
    (closed : core.pipeline.rawQueue.closed = true ∧ core.pipeline.decodedQueue.closed = true)
    (queue : QueueId) : (core.queue queue).closed = true := by
  cases queue with
  | raw => exact closed.1
  | decoded => exact closed.2

/-- **A failing thread fails until both queues are closed.** -/
theorem CoreStep.failing {core next : Core decoders} (inv : Shutdown core.pipeline)
    (step : CoreStep options core thread next) {other : ThreadId decoders}
    (failing : core.Failing other) :
    next.Failing other ∨ ∀ queue, (next.queue queue).closed = true := by
  by_cases this : other = thread
  · subst this
    cases step with
    | main step joined =>
        obtain ⟨exn, stage, here⟩ := failing
        cases step with
        | @fails exn stage failing =>
            cases follows : stage.next with
            | some following =>
                exact Or.inl ⟨exn, following, by simp [MainPc.afterFail, follows]⟩
            | none =>
                have place := inv.main
                rw [failing] at place
                exact Or.inr (both_closed (fail_last place.2 follows))
        | throws exn may =>
            rw [here] at may
            exact may.elim
        | _ => simp_all
    | @decoder i _ step =>
        obtain ⟨exn, stage, here⟩ := failing
        cases step with
        | @fails exn stage failing =>
            cases follows : stage.next with
            | some following =>
                exact Or.inl ⟨exn, following, by simp [DecoderPc.afterFail, follows]⟩
            | none =>
                have place := inv.decoder i
                rw [failing] at place
                exact Or.inr (both_closed (fail_last place follows))
        | throws exn may =>
            rw [here] at may
            exact may.elim
        | _ => simp_all
    | writer step =>
        obtain ⟨failure, stage, here⟩ := failing
        cases step with
        | @fails failure stage failing =>
            cases follows : stage.next with
            | some following =>
                exact Or.inl ⟨failure, following, by simp [WriterPc.afterFail, follows]⟩
            | none =>
                have place := inv.writer
                rw [failing] at place
                exact Or.inr (both_closed (fail_last place follows))
        | throws exn may =>
            rw [here] at may
            exact may.elim
        | handles handling =>
            have may := (handles_mayThrow handling).1
            rw [here] at may
            exact may.elim
        | _ => simp_all
    | _ => exact failing.elim
  · left
    have same := step.place this
    cases other with
    | main => rw [Core.Failing, Place.main.inj same]; exact failing
    | decoder i => rw [Core.Failing, Place.decoder.inj same]; exact failing
    | writer => rw [Core.Failing, Place.writer.inj same]; exact failing
    | progress => exact failing

/-- An insertion threw only on a thread that is failing, or the queue is closed by now. -/
def Blamed (state : ThreadedState decoders) : Prop :=
  ∀ queue, state.aborted queue = true →
    (∃ other, state.core.Failing other) ∨ (state.core.queue queue).closed = true

theorem blamed_step (inv : Shutdown state.core.pipeline) (calls : Calls state) (blamed : Blamed state)
    (step : ThreadStep options thread state kind next) : Blamed next := by
  have moved {core : Core decoders} (step : CoreStep options state.core thread core)
      (queue : QueueId) (aborted : state.aborted queue = true) :
      (∃ other, core.Failing other) ∨ (core.queue queue).closed = true := by
    rcases blamed queue aborted with ⟨other, failing⟩ | closed
    · rcases step.failing inv failing with still | closed
      · exact Or.inl ⟨other, still⟩
      · exact Or.inr (closed queue)
    · exact Or.inr (step.closed queue closed)
  cases step with
  | works idle outside step calm exited => exact moved step
  | throws idle step disturbed => exact moved step
  | acts acting acts returns step calm => exact moved step
  | @aborts queue value core acting isOpen step disturbed =>
      intro other aborted
      refine Or.inl ⟨thread, ?_⟩
      cases thread with
      | main => exact ⟨_, _, disturbed.choose_spec⟩
      | decoder i => exact ⟨_, _, disturbed.choose_spec⟩
      | writer => exact ⟨_, _, disturbed.choose_spec⟩
      | progress =>
          have here : state.core.progress.call = some ⟨queue, .push value⟩ :=
            calls.calling queue .progress (.push value) (by rw [acting]; rfl)
          unfold ProgressPc.call at here
          split at here <;> cases here
  | _ => exact blamed

/-- What the ends of the threads tell. -/
structure Ends (core : Core decoders) : Prop where
  joining : ∀ next, core.pipeline.main = .joining next → next ≤ decoders
  failed : core.pipeline.writer = .failed → core.pipeline.decodedQueue.closed = true
  progress : core.Finished .main → core.progress = .done
  threw : ∀ exn, core.pipeline.main = .threw exn → core.pipeline.failure.map Failure.exn = some exn

/-- The recorded exception stays. -/
theorem CoreStep.exn {core next : Core decoders} (step : CoreStep options core thread next) {exn : Exn}
    (recorded : core.pipeline.failure.map Failure.exn = some exn) :
    next.pipeline.failure.map Failure.exn = some exn := by
  obtain ⟨failure, first, same⟩ := Option.map_eq_some_iff.mp recorded
  rw [step.failure, first, ← same]
  rfl

theorem ends_step {core next : Core decoders} (inv : Shutdown core.pipeline) (ends : Ends core)
    (step : CoreStep options core thread next) : Ends next := by
  have kept := fun exn here => step.exn (ends.threw exn here)
  cases step with
  | main step joined =>
      have writer := (mainStep_frame step).2.1
      refine ⟨fun last here => ?_, fun failed => ?_, fun finished => ?_, fun exn here => ?_⟩
      · cases step with
        | @fails exn stage failing => cases stage <;> simp [MainPc.afterFail, FailStage.next] at here
        | closesRaw closing =>
            obtain rfl := MainPc.joining.inj here
            exact Nat.zero_le _
        | joins joining below ended =>
            obtain rfl := MainPc.joining.inj here
            exact below
        | submits bytes receiving => cases here
        | _ => simp_all
      · exact (mainStep_later step).decoded.closed (ends.failed (writer ▸ failed))
      · cases step with
        | @fails exn stage failing =>
            cases stage <;> simp [Core.Finished, MainPc.afterFail, FailStage.next] at finished
        | returns rethrowing clean => exact joined rethrowing
        | rethrows rethrowing caught => exact joined rethrowing
        | _ => simp [Core.Finished] at finished
      · cases step with
        | @fails exn stage failing =>
            cases stage <;> simp [MainPc.afterFail, FailStage.next] at here
        | @rethrows failure rethrowing caught =>
            obtain rfl := MainPc.threw.inj here
            exact congrArg (Option.map Failure.exn) caught
        | _ => cases here
  | decoder step =>
      obtain ⟨main, writer, _⟩ := decoderStep_frame step
      refine ⟨fun last here => ends.joining last (main ▸ here), fun failed => ?_,
        fun finished => ends.progress ?_, fun exn here => ?_⟩
      · exact (decoderStep_later step).decoded.closed (ends.failed (writer ▸ failed))
      · simpa only [Core.Finished, main] using finished
      · exact kept exn (main ▸ here)
  | writer step =>
      have main := (writerStep_frame step).1
      refine ⟨fun last here => ends.joining last (main ▸ here), fun failed => ?_,
        fun finished => ends.progress ?_, fun exn here => ?_⟩
      · cases step with
        | @fails failure stage failing =>
            cases follows : stage.next with
            | some following => simp [WriterPc.afterFail, follows] at failed
            | none =>
                have place := inv.writer
                rw [failing] at place
                exact (fail_last place follows).2
        | handles handling =>
            exact absurd failed (handles_mayThrow handling).2.running.2.1
        | _ => simp at failed
      · simpa only [Core.Finished, main] using finished
      · exact kept exn (main ▸ here)
  | ticks waiting =>
      refine ⟨ends.joining, ends.failed, fun finished => ?_, ends.threw⟩
      have done := ends.progress finished
      rw [waiting] at done
      cases done
  | sizesRaw sizing =>
      refine ⟨ends.joining, ends.failed, fun finished => ?_, ends.threw⟩
      have done := ends.progress finished
      rw [sizing] at done
      cases done
  | sizesDecoded sizing =>
      refine ⟨ends.joining, ends.failed, fun finished => ?_, ends.threw⟩
      have done := ends.progress finished
      rw [sizing] at done
      cases done
  | stops waiting requested => exact ⟨ends.joining, ends.failed, fun _ => rfl, ends.threw⟩

/-! ## Every run -/

/-- **What holds in every reachable state.** -/
structure Threaded (options : Options) (health : StationHealthMonitor)
    (state : ThreadedState options.decoderThreads) : Prop where
  reachable : (pipeline options health).Reachable state.core.pipeline
  locks : Locks state
  calls : Calls state
  recorded : state.core.pipeline.failure = state.captured.head?
  blamed : Blamed state
  ends : Ends state.core

end Threaded

section Runs

variable {options : Options} {health : StationHealthMonitor}
  {state next : ThreadedState options.decoderThreads}

theorem Threaded.shutdown (threaded : Threaded options health state) :
    Shutdown state.core.pipeline :=
  Station.shutdown threaded.reachable

theorem threaded_start (options : Options) (health : StationHealthMonitor) :
    Threaded options health { core := { pipeline := .initial options health } } where
  reachable := .start rfl
  locks queue := ⟨syncOk_start _, wakeOk_start _⟩
  calls := ⟨fun _ _ _ seeking => seeking.elim, fun _ _ _ busy _ => absurd rfl busy⟩
  recorded := rfl
  blamed _ aborted := by cases aborted
  ends := by
    refine ⟨nofun, nofun, ?_, nofun⟩
    rintro (returned | ⟨exn, threw⟩)
    · cases returned
    · cases threw

theorem threaded_step {thread : ThreadId options.decoderThreads} {kind : StepKind}
    (before : Threaded options health state) (step : ThreadStep options thread state kind next) :
    Threaded options health next := by
  have inv := before.shutdown
  refine ⟨?_, locks_step before.locks before.calls step, calls_step before.calls step,
    recorded_step before.calls before.recorded step, blamed_step inv before.calls before.blamed step,
    ?_⟩
  · rcases step.core with same | step
    · rw [same]
      exact before.reachable
    · rcases step.pipeline with same | step
      · rw [same]
        exact before.reachable
      · exact before.reachable.step step
  · rcases step.core with same | step
    · rw [same]
      exact before.ends
    · exact ends_step inv before.ends step

theorem threaded (reachable : (threads options health).Reachable state) :
    Threaded options health state := by
  refine System.invariant ?_ ?_ reachable
  · rintro _ rfl
    exact threaded_start options health
  · rintro state next before ⟨thread, kind, step⟩
    exact threaded_step before step

/-- **Every run, its locks forgotten, is a run of the pipeline.** -/
theorem threads_reachable (reachable : (threads options health).Reachable state) :
    (pipeline options health).Reachable state.core.pipeline :=
  (threaded reachable).reachable

end Runs

end Stgs.Station
