/-
# Station.Liveness -- the pipeline never gets stuck

While a thread is unfinished some thread has a step of its own (`advances`).  For if no
thread has one, nobody is failing, every sleeper sleeps on an open queue that has nothing
for it (`blocked`), and the two queues, one full and one empty, contradict each other
along the pipeline (`Blocked.finished`).

A step of its own that takes no new input makes the pipeline smaller, or leaves it and
brings its thread on in its call (`decreases`).  So from every state the threads can
finish, all of them.
-/
import Stgs.Station.ThreadInvariants

namespace Stgs.Station

open Stgs.Concurrent Stgs.Theory.Transition Stgs.Wire

set_option autoImplicit false

/-! ## A step of its own -/

section OwnSteps

variable {decoders : Nat} {options : Options} {thread : ThreadId decoders}
  {core : Core decoders}

/-- The thread takes a step of its own that leaves the queue so. -/
def Serves (options : Options) (core : Core decoders) (thread : ThreadId decoders) (queue : QueueId)
    (after : BlockingQueue queue.Item) : Prop :=
  ∃ next, CoreStep options core thread next ∧ next.queue queue = after ∧ ¬ next.Disturbed thread

variable {queue : QueueId} {call : Call queue.Item} {outcome : Outcome queue.Item}
  {after : BlockingQueue queue.Item}

theorem main_serves (calls : core.call .main = some ⟨queue, call⟩)
    (acts : Acts (core.queue queue) call outcome after) (returns : outcome ≠ .threw) :
    Serves options core .main queue after := by
  simp only [Core.call] at calls
  cases here : core.pipeline.main with
  | pushing work =>
      rw [here] at calls
      cases calls
      cases acts with
      | @pushes _ accepted after pushed =>
          cases accepted with
          | true =>
              exact ⟨_, .main (.pushes here pushed) (by simp [here]), rfl, by
                simp [Core.Disturbed]⟩
          | false =>
              exact ⟨_, .main (.refuses here pushed) (by simp [here]), rfl, by
                simp [Core.Disturbed]⟩
      | throws isOpen => exact absurd rfl returns
  | failing exn stage =>
      rw [here] at calls
      cases stage with
      | closingRaw | closingDecoded =>
          cases calls
          cases acts
          exact ⟨_, .main (.fails here) (by simp [here]), rfl, by
            simp [Core.Disturbed, MainPc.afterFail, FailStage.next]⟩
      | _ => cases calls
  | closingRaw =>
      rw [here] at calls
      cases calls
      cases acts
      exact ⟨_, .main (.closesRaw here) (by simp [here]), rfl, by simp [Core.Disturbed]⟩
  | closingDecoded =>
      rw [here] at calls
      cases calls
      cases acts
      exact ⟨_, .main (.closesDecoded here) (by simp [here]), rfl, by simp [Core.Disturbed]⟩
  | _ =>
      rw [here] at calls
      cases calls

theorem decoder_serves {i : Fin decoders} (calls : core.call (.decoder i) = some ⟨queue, call⟩)
    (acts : Acts (core.queue queue) call outcome after) (returns : outcome ≠ .threw) :
    Serves options core (.decoder i) queue after := by
  simp only [Core.call] at calls
  cases here : core.pipeline.decoder i with
  | popping =>
      rw [here] at calls
      cases calls
      cases acts with
      | @pops value after popped =>
          cases value with
          | some work => exact ⟨_, .decoder (.pops here popped), rfl, by simp [Core.Disturbed]⟩
          | none => exact ⟨_, .decoder (.finishes here popped), rfl, by simp [Core.Disturbed]⟩
  | pushing item =>
      rw [here] at calls
      cases calls
      cases acts with
      | @pushes _ accepted after pushed =>
          cases accepted with
          | true => exact ⟨_, .decoder (.pushes here pushed), rfl, by simp [Core.Disturbed]⟩
          | false => exact ⟨_, .decoder (.refuses here pushed), rfl, by simp [Core.Disturbed]⟩
      | throws isOpen => exact absurd rfl returns
  | failing exn stage =>
      rw [here] at calls
      cases stage with
      | closingRaw | closingDecoded =>
          cases calls
          cases acts
          exact ⟨_, .decoder (.fails here), rfl, by
            simp [Core.Disturbed, DecoderPc.afterFail, FailStage.next]⟩
      | _ => cases calls
  | _ =>
      rw [here] at calls
      cases calls

theorem writer_serves (calls : core.call .writer = some ⟨queue, call⟩)
    (acts : Acts (core.queue queue) call outcome after) :
    Serves options core .writer queue after := by
  simp only [Core.call] at calls
  cases here : core.pipeline.writer with
  | popping =>
      rw [here] at calls
      cases calls
      cases acts with
      | @pops value after popped =>
          cases value with
          | some item => exact ⟨_, .writer (.pops here popped), rfl, by simp [Core.Disturbed]⟩
          | none => exact ⟨_, .writer (.drains here popped), rfl, by simp [Core.Disturbed]⟩
  | failing failure stage =>
      rw [here] at calls
      cases stage with
      | closingRaw | closingDecoded =>
          cases calls
          cases acts
          exact ⟨_, .writer (.fails here), rfl, by
            simp [Core.Disturbed, WriterPc.afterFail, FailStage.next]⟩
      | _ => cases calls
  | _ =>
      rw [here] at calls
      cases calls

theorem progress_serves (calls : core.call .progress = some ⟨queue, call⟩)
    (acts : Acts (core.queue queue) call outcome after) :
    Serves options core .progress queue after := by
  simp only [Core.call] at calls
  cases here : core.progress with
  | sizingRaw =>
      rw [here] at calls
      cases calls
      cases acts
      exact ⟨_, .sizesRaw here, rfl, by simp [Core.Disturbed]⟩
  | sizingDecoded =>
      rw [here] at calls
      cases calls
      cases acts
      exact ⟨_, .sizesDecoded here, rfl, by simp [Core.Disturbed]⟩
  | _ =>
      rw [here] at calls
      cases calls

/-- **What a thread has asked a queue for it can do**, if the queue does. -/
theorem coreStep_of_acts (calls : core.call thread = some ⟨queue, call⟩)
    (acts : Acts (core.queue queue) call outcome after) (returns : outcome ≠ .threw) :
    Serves options core thread queue after := by
  cases thread with
  | main => exact main_serves calls acts returns
  | decoder i => exact decoder_serves calls acts returns
  | writer => exact writer_serves calls acts
  | progress => exact progress_serves calls acts

/-- Only the main thread takes input, and only when it is receiving. -/
theorem CoreStep.nextSequence {next : Core decoders} (step : CoreStep options core thread next) :
    next.pipeline.nextSequence = core.pipeline.nextSequence ∨ core.call thread = none := by
  cases step with
  | main step joined =>
      cases step with
      | submits bytes receiving => exact Or.inr (by rw [Core.call, receiving]; rfl)
      | @fails exn stage failing => exact Or.inl (by cases stage <;> rfl)
      | _ => exact Or.inl rfl
  | decoder step =>
      cases step with
      | @fails exn stage failing => exact Or.inl (by cases stage <;> rfl)
      | _ => exact Or.inl rfl
  | writer step =>
      cases step with
      | @fails failure stage failing => exact Or.inl (by cases stage <;> rfl)
      | _ => exact Or.inl rfl
  | _ => exact Or.inl rfl

/-- A step outside the queues that takes no input and is nobody else's doing. -/
def GoesOn (options : Options) (core : Core decoders) (thread : ThreadId decoders) : Prop :=
  ∃ next, CoreStep options core thread next ∧ ¬ next.Disturbed thread ∧
    next.pipeline.nextSequence = core.pipeline.nextSequence

/-- A decoder outside the queues goes on. -/
theorem decoder_goes_on {i : Fin decoders} (outside : core.call (.decoder i) = none)
    (unfinished : ¬ core.Finished (.decoder i)) :
    GoesOn options core (.decoder i) := by
  simp only [Core.call] at outside
  cases here : core.pipeline.decoder i with
  | decoding work => exact ⟨_, .decoder (.decodes here), by simp [Core.Disturbed], rfl⟩
  | logging => exact ⟨_, .decoder (.logs here), by simp [Core.Disturbed], rfl⟩
  | failing exn stage =>
      rw [here] at outside
      cases stage with
      | capturing | clearing =>
          exact ⟨_, .decoder (.fails here), by
            simp [Core.Disturbed, DecoderPc.afterFail, FailStage.next], rfl⟩
      | _ => cases outside
  | done => exact absurd here unfinished
  | _ =>
      rw [here] at outside
      cases outside

/-- The writer outside the queue goes on: its next call, or an exception of its own. -/
theorem writer_goes_on (outside : core.call .writer = none)
    (unfinished : ¬ core.Finished .writer) :
    GoesOn options core .writer := by
  have calls {pc : WriterPc} {work : WriterState} {updates : List HealthUpdate}
      (handles : Handles options core.pipeline.writer core.pipeline.work
        core.pipeline.healthUpdates pc work updates) (calm : ∀ failure stage, pc ≠ .failing failure stage) :
      GoesOn options core .writer :=
    ⟨_, .writer (.handles handles), fun disturbed => disturbed.elim fun _ failing => calm _ _ failing, rfl⟩
  simp only [Core.call] at outside
  cases here : core.pipeline.writer with
  | inserting item =>
      by_cases present : ∃ other ∈ core.pipeline.pending, other.sequence = item.sequence
      · obtain ⟨other, member, same⟩ := present
        exact ⟨_, .writer (.duplicates here member same), by simp [Core.Disturbed], rfl⟩
      · have fresh : ∀ other ∈ core.pipeline.pending, other.sequence ≠ item.sequence :=
          fun other member same => present ⟨other, member, same⟩
        exact ⟨_, .writer (.inserts here fresh), by simp [Core.Disturbed], rfl⟩
  | finding =>
      by_cases present : ∃ item ∈ core.pipeline.pending,
          item.sequence = core.pipeline.expectedSequence
      · obtain ⟨item, member, next⟩ := present
        exact ⟨_, .writer (.finds here member next), by simp [Core.Disturbed], rfl⟩
      · have missing : ∀ item ∈ core.pipeline.pending,
            item.sequence ≠ core.pipeline.expectedSequence :=
          fun item member next => present ⟨item, member, next⟩
        exact ⟨_, .writer (.waits here missing), by simp [Core.Disturbed], rfl⟩
  | counting item =>
      rw [here] at calls
      cases result : item.result with
      | ok frame => exact calls (.countsDecoded result) (by simp)
      | error error => exact calls (.countsRejected result) (by simp)
  | recording item =>
      rw [here] at calls
      cases result : item.result with
      | ok frame => exact calls (.recordsDecoded result) (by simp)
      | error error => exact calls (.recordsRejected result) (by simp)
  | processing item frame =>
      rw [here] at calls
      cases processed : processApplicationPayload options frame core.pipeline.work with
      | ok next => exact calls (.processes processed) (by simp)
      | error exn => exact ⟨_, .writer (.throwsPayload here processed), by simp [Core.Disturbed], rfl⟩
  | writing item frame =>
      rw [here] at calls
      exact calls .writes (by simp)
  | tallying item frame =>
      rw [here] at calls
      exact calls .tallies (by simp)
  | logging item =>
      rw [here] at calls
      cases result : item.result with
      | ok frame => exact calls (.logsDecoded result) (by simp)
      | error error => exact calls (.logsRejected result) (by simp)
  | erasing item => exact ⟨_, .writer (.erases here), by simp [Core.Disturbed], rfl⟩
  | checking =>
      by_cases empty : core.pipeline.pending = []
      · exact ⟨_, .writer (.checks here empty), by simp [Core.Disturbed], rfl⟩
      · exact ⟨_, .writer (.gap here empty), by simp [Core.Disturbed], rfl⟩
  | storing => exact ⟨_, .writer (.stores here), by simp [Core.Disturbed], rfl⟩
  | finishing => exact ⟨_, .writer (.finishes here), by simp [Core.Disturbed], rfl⟩
  | failing failure stage =>
      rw [here] at outside
      cases stage with
      | capturing | clearing =>
          exact ⟨_, .writer (.fails here), by
            simp [Core.Disturbed, WriterPc.afterFail, FailStage.next], rfl⟩
      | _ => cases outside
  | completed => exact absurd (Or.inl here) unfinished
  | failed => exact absurd (Or.inr here) unfinished
  | popping =>
      rw [here] at outside
      cases outside

/-- What a thread waits for outside the queues: the main thread for those it joins, the
progress thread for its timer or the request to stop. -/
def Core.Joins (core : Core decoders) : ThreadId decoders → Prop
  | .main => ∃ other, core.pipeline.main.Awaits other ∧ ¬ core.Finished other
  | .progress => core.progress = .waiting ∧ core.pipeline.main ≠ .rethrowing
  | _ => False

/-- The main thread outside the queues goes on, or joins. -/
theorem main_goes_on (ends : Ends core) (outside : core.call .main = none)
    (unfinished : ¬ core.Finished .main) (free : ¬ core.Joins .main) :
    GoesOn options core .main := by
  simp only [Core.call] at outside
  cases here : core.pipeline.main with
  | receiving => exact ⟨_, .main (.ends here) (by simp [here]), by simp [Core.Disturbed], rfl⟩
  | refused => exact ⟨_, .main (.stops here) (by simp [here]), by simp [Core.Disturbed], rfl⟩
  | counting => exact ⟨_, .main (.counts here) (by simp [here]), by simp [Core.Disturbed], rfl⟩
  | failing exn stage =>
      rw [here] at outside
      cases stage with
      | capturing | clearing =>
          exact ⟨_, .main (.fails here) (by simp [here]), by
            simp [Core.Disturbed, MainPc.afterFail, FailStage.next], rfl⟩
      | _ => cases outside
  | joining next =>
      rcases Nat.lt_or_eq_of_le (ends.joining next here) with below | rfl
      · by_cases ended : core.pipeline.decoder ⟨next, below⟩ = .done
        · exact ⟨_, .main (.joins here below ended) (by simp [here]), by simp [Core.Disturbed], rfl⟩
        · exact absurd ⟨.decoder ⟨next, below⟩, by rw [here]; exact rfl, ended⟩ free
      · exact ⟨_, .main (.joinsAll here) (by simp [here]), by simp [Core.Disturbed], rfl⟩
  | joiningWriter =>
      by_cases ended : core.Finished .writer
      · exact ⟨_, .main (.joinsWriter here ended) (by simp [here]), by simp [Core.Disturbed], rfl⟩
      · exact absurd ⟨.writer, by rw [here]; exact trivial, ended⟩ free
  | rethrowing =>
      by_cases ended : core.progress = .done
      · cases recorded : core.pipeline.failure with
        | none => exact ⟨_, .main (.returns here recorded) (fun _ => ended), by simp [Core.Disturbed], rfl⟩
        | some failure =>
            exact ⟨_, .main (.rethrows here recorded) (fun _ => ended), by simp [Core.Disturbed], rfl⟩
      · exact absurd ⟨.progress, by rw [here]; exact trivial, ended⟩ free
  | returned => exact absurd (Or.inl here) unfinished
  | threw exn => exact absurd (Or.inr ⟨exn, here⟩) unfinished
  | _ =>
      rw [here] at outside
      cases outside

/-- The progress thread outside the queues goes on, or waits. -/
theorem progress_goes_on (outside : core.call .progress = none)
    (unfinished : ¬ core.Finished .progress) (free : ¬ core.Joins .progress) :
    GoesOn options core .progress := by
  simp only [Core.call] at outside
  cases here : core.progress with
  | waiting =>
      by_cases requested : core.pipeline.main = .rethrowing
      · exact ⟨_, .stops here requested, by simp [Core.Disturbed], rfl⟩
      · exact absurd ⟨here, requested⟩ free
  | done => exact absurd here unfinished
  | _ =>
      rw [here] at outside
      cases outside

/-- **A thread that is outside the queues and joins nobody goes on.** -/
theorem goes_on (ends : Ends core) (outside : core.call thread = none)
    (unfinished : ¬ core.Finished thread) (free : ¬ core.Joins thread) :
    GoesOn options core thread := by
  cases thread with
  | main => exact main_goes_on ends outside unfinished free
  | decoder i => exact decoder_goes_on outside unfinished
  | writer => exact writer_goes_on outside unfinished
  | progress => exact progress_goes_on outside unfinished free

end OwnSteps

/-! ## When nothing moves -/

section Stuck

variable {decoders : Nat} {options : Options} {state : ThreadedState decoders}
  {thread : ThreadId decoders}

/-- Some thread has a step of its own that takes no input. -/
def Advances (options : Options) (state : ThreadedState decoders) : Prop :=
  ∃ thread next, ThreadStep options thread state .own next ∧
    next.core.pipeline.nextSequence = state.core.pipeline.nextSequence

/-- Then no call moves. -/
theorem still_of_stuck (locks : Locks state) (calls : Calls state) (stuck : ¬ Advances options state)
    (queue : QueueId) : Still (state.core.queue queue) (state.sync queue) := by
  refine ⟨fun thread sync moves => ?_, fun thread call acting => ?_, fun thread call outcome waking => ?_⟩
  · exact stuck ⟨thread, _, .moves moves, rfl⟩
  · have at' : state.core.call thread = some ⟨queue, call⟩ :=
      calls.calling queue thread call (by rw [acting]; rfl)
    have ready := (locks queue).1.acting thread call acting
    obtain ⟨outcome, after, returns, acts⟩ := ready.acts
    obtain ⟨next, step, rfl, calm⟩ := @coreStep_of_acts _ options _ _ _ _ _ _ at' acts returns
    have same := step.nextSequence.resolve_right (by simp [at'])
    exact stuck ⟨thread, _, .acts acting acts returns step calm, same⟩
  · exact stuck ⟨thread, _, .returns waking, rfl⟩

/-- A thread that is at no call is in none. -/
theorem idle_of_stuck (locks : Locks state) (calls : Calls state) (stuck : ¬ Advances options state)
    (outside : state.core.call thread = none) : state.Idle thread := by
  intro queue
  rcases (still_of_stuck locks calls stuck queue).resting (locks queue).1 thread with
    idle | ⟨call, waiting⟩
  · exact idle
  · have at' := calls.calling queue thread call (by rw [waiting]; rfl)
    rw [outside] at at'
    cases at'

/-- A thread that has finished calls nobody. -/
theorem Core.Finished.call {core : Core decoders} (finished : core.Finished thread) :
    core.call thread = none := by
  cases thread with
  | main =>
      rcases finished with here | ⟨exn, here⟩
      · simp only [Core.call, here]; rfl
      · simp only [Core.call, here]; rfl
  | decoder i =>
      have here : core.pipeline.decoder i = .done := finished
      simp only [Core.call, here]; rfl
  | writer =>
      rcases finished with here | here
      · simp only [Core.call, here]; rfl
      · simp only [Core.call, here]; rfl
  | progress =>
      have here : core.progress = .done := finished
      simp only [Core.call, here]; rfl

/-- A thread outside the queues has finished, or joins. -/
theorem resting_of_stuck (locks : Locks state) (calls : Calls state) (ends : Ends state.core)
    (stuck : ¬ Advances options state) (outside : state.core.call thread = none) :
    state.core.Finished thread ∨ state.core.Joins thread := by
  have idle := idle_of_stuck locks calls stuck outside
  by_contra neither
  obtain ⟨unfinished, free⟩ := not_or.mp neither
  obtain ⟨next, step, calm, same⟩ := @goes_on _ options _ _ ends outside unfinished free
  refine stuck ⟨thread, _, .works idle outside step calm fun isMain other awaits => ?_, same⟩
  subst isMain
  have finished : state.core.Finished other := by
    by_contra unfinished
    exact free ⟨other, awaits, unfinished⟩
  exact idle_of_stuck locks calls stuck finished.call

/-- A thread at a call is asleep in it. -/
theorem asleep_of_stuck (locks : Locks state) (calls : Calls state)
    (stuck : ¬ Advances options state) {queue : QueueId} {call : Call queue.Item}
    (at' : state.core.call thread = some ⟨queue, call⟩) :
    (state.sync queue).phase thread = .waiting call := by
  by_cases idle : state.Idle thread
  · exact absurd ⟨thread, _, .invokes idle at', rfl⟩ stuck
  · obtain ⟨other, busy⟩ := not_forall.mp idle
    obtain ⟨own, waiting⟩ :=
      ((still_of_stuck locks calls stuck other).resting (locks other).1 thread).resolve_left busy
    have same := calls.calling other thread own (by rw [waiting]; rfl)
    rw [at'] at same
    cases same
    exact waiting

/-- A call that closes a queue never waits, so nobody is failing. -/
theorem not_failing_of_stuck (locks : Locks state) (calls : Calls state) (ends : Ends state.core)
    (stuck : ¬ Advances options state) (thread : ThreadId decoders) :
    ¬ state.core.Failing thread := by
  intro failing
  have awake {queue : QueueId} (at' : state.core.call thread = some ⟨queue, .close⟩) : False := by
    have waiting := asleep_of_stuck locks calls stuck at'
    have waits := (locks queue).1.asleep thread .close waiting
    simp [Call.side] at waits
  have busy (outside : state.core.call thread = none) : False := by
    rcases resting_of_stuck locks calls ends stuck outside with finished | joins
    · cases thread with
      | progress => exact failing
      | _ =>
          obtain ⟨failure, stage, here⟩ := failing
          simp [Core.Finished, here] at finished
    · cases thread with
      | main =>
          obtain ⟨failure, stage, here⟩ := failing
          obtain ⟨other, awaits, _⟩ := joins
          rw [here] at awaits
          cases other <;> exact awaits.elim
      | progress => exact failing
      | _ => exact joins
  cases thread with
  | main =>
      obtain ⟨failure, stage, here⟩ := failing
      cases stage with
      | closingRaw => exact @awake .raw (by simp only [Core.call, here]; rfl)
      | closingDecoded => exact @awake .decoded (by simp only [Core.call, here]; rfl)
      | _ => exact busy (by simp only [Core.call, here]; rfl)
  | decoder i =>
      obtain ⟨failure, stage, here⟩ := failing
      cases stage with
      | closingRaw => exact @awake .raw (by simp only [Core.call, here]; rfl)
      | closingDecoded => exact @awake .decoded (by simp only [Core.call, here]; rfl)
      | _ => exact busy (by simp only [Core.call, here]; rfl)
  | writer =>
      obtain ⟨failure, stage, here⟩ := failing
      cases stage with
      | closingRaw => exact @awake .raw (by simp only [Core.call, here]; rfl)
      | closingDecoded => exact @awake .decoded (by simp only [Core.call, here]; rfl)
      | _ => exact busy (by simp only [Core.call, here]; rfl)
  | progress => exact failing

/-- Where nothing moves. -/
structure Blocked (core : Core decoders) : Prop where
  resting : ∀ thread, core.call thread = none → core.Finished thread ∨ core.Joins thread
  waiting : ∀ thread queue (call : Call (QueueId.Item queue)),
    core.call thread = some ⟨queue, call⟩ →
      (core.queue queue).closed = false ∧ ¬ call.Ready (core.queue queue)

/-- **When nothing moves, every call waits for what its queue does not have.** -/
theorem blocked_of_stuck (locks : Locks state) (calls : Calls state) (blamed : Blamed state)
    (ends : Ends state.core) (stuck : ¬ Advances options state) : Blocked state.core := by
  refine ⟨fun thread outside => resting_of_stuck locks calls ends stuck outside,
    fun thread queue call at' => ?_⟩
  have waits := asleep_of_stuck locks calls stuck at'
  obtain ⟨isOpen, reason⟩ :=
    asleep_of_still (still_of_stuck locks calls stuck queue) (locks queue).1 (locks queue).2 waits
  refine ⟨isOpen, reason.resolve_right fun aborted => ?_⟩
  rcases blamed queue aborted with ⟨other, failing⟩ | closed
  · exact not_failing_of_stuck locks calls ends stuck other failing
  · rw [isOpen] at closed
    cases closed

end Stuck

/-! ## The queues contradict each other -/

section Blocked

/-- A push that waits: the queue is full, and not empty. -/
theorem push_unready {α : Type} {queue : BlockingQueue α} {value : α}
    (unready : ¬ (Call.push value).Ready queue) : queue.queue ≠ [] := by
  intro empty
  obtain ⟨_, bounded, full⟩ :
      ¬ queue.closed = true ∧ ¬ queue.capacity = 0 ∧ ¬ queue.queue.length < queue.capacity := by
    simpa only [Call.Ready, not_or] using unready
  rw [empty] at full
  exact full (Nat.pos_of_ne_zero bounded)

/-- A pop that waits: the queue is empty. -/
theorem pop_unready {α : Type} {queue : BlockingQueue α} (unready : ¬ Call.pop.Ready queue) :
    queue.queue = [] := by
  by_contra filled
  exact unready (Or.inr filled)

variable {decoders : Nat} {core : Core decoders}

theorem Blocked.not_closing (blocked : Blocked core) (thread : ThreadId decoders) (queue : QueueId) :
    core.call thread ≠ some ⟨queue, .close⟩ :=
  fun at' => (blocked.waiting thread queue .close at').2 trivial

/-- A thread that fails is not at a close, so it is at no call. -/
theorem Blocked.outside_of_failing (blocked : Blocked core) (thread : ThreadId decoders)
    (stage : FailStage) (at' : core.call thread = stage.call) : core.call thread = none := by
  cases stage with
  | closingRaw => exact absurd at' (blocked.not_closing thread .raw)
  | closingDecoded => exact absurd at' (blocked.not_closing thread .decoded)
  | _ => exact at'

/-- A decoder waits for the raw queue, or for the decoded one, or has left. -/
theorem Blocked.decoder (blocked : Blocked core) (i : Fin decoders) :
    (core.pipeline.rawQueue.closed = false ∧ core.pipeline.rawQueue.queue = []) ∨
      (core.pipeline.decodedQueue.closed = false ∧ core.pipeline.decodedQueue.queue ≠ []) ∨
      core.pipeline.decoder i = .done := by
  have waiting := blocked.waiting (.decoder i)
  have rests (outside : core.call (.decoder i) = none) : core.Finished (.decoder i) :=
    (blocked.resting (.decoder i) outside).resolve_right id
  cases here : core.pipeline.decoder i with
  | popping =>
      obtain ⟨isOpen, unready⟩ := waiting .raw .pop (by simp only [Core.call, here]; rfl)
      exact Or.inl ⟨isOpen, pop_unready unready⟩
  | pushing item =>
      obtain ⟨isOpen, unready⟩ := waiting .decoded (.push item) (by simp only [Core.call, here]; rfl)
      exact Or.inr (Or.inl ⟨isOpen, push_unready unready⟩)
  | done => exact Or.inr (Or.inr rfl)
  | failing exn stage =>
      have outside := blocked.outside_of_failing (.decoder i) stage (by simp only [Core.call, here]; rfl)
      exact Or.inr (Or.inr (here ▸ rests outside))
  | _ =>
      have outside : core.call (.decoder i) = none := by
        simp only [Core.call, here]
        rfl
      exact Or.inr (Or.inr (here ▸ rests outside))

/-- The writer waits for the decoded queue, or has ended. -/
theorem Blocked.writer (blocked : Blocked core) :
    (core.pipeline.decodedQueue.closed = false ∧ core.pipeline.decodedQueue.queue = []) ∨
      core.Finished .writer := by
  have waiting := blocked.waiting .writer
  have rests (outside : core.call .writer = none) : core.Finished .writer :=
    (blocked.resting .writer outside).resolve_right id
  cases here : core.pipeline.writer with
  | popping =>
      obtain ⟨isOpen, unready⟩ := waiting .decoded .pop (by simp only [Core.call, here]; rfl)
      exact Or.inl ⟨isOpen, pop_unready unready⟩
  | failing failure stage =>
      have outside := blocked.outside_of_failing .writer stage (by simp only [Core.call, here]; rfl)
      exact Or.inr (rests outside)
  | _ => exact Or.inr (rests (by simp only [Core.call, here]; rfl))

/-- The progress thread waits for its timer, or has ended. -/
theorem Blocked.progress (blocked : Blocked core) :
    core.Joins .progress ∨ core.Finished .progress := by
  have waiting := blocked.waiting .progress
  cases here : core.progress with
  | sizingRaw => exact absurd trivial (waiting .raw .size (by simp only [Core.call, here]; rfl)).2
  | sizingDecoded =>
      exact absurd trivial (waiting .decoded .size (by simp only [Core.call, here]; rfl)).2
  | _ => exact (blocked.resting .progress (by simp only [Core.call, here]; rfl)).symm

/-- The main thread waits for the raw queue, or joins, or has finished. -/
theorem Blocked.main (blocked : Blocked core) :
    (core.pipeline.rawQueue.closed = false ∧ core.pipeline.rawQueue.queue ≠ []) ∨
      core.Joins .main ∨ core.Finished .main := by
  have waiting := blocked.waiting .main
  have rests (outside : core.call .main = none) : core.Joins .main ∨ core.Finished .main :=
    (blocked.resting .main outside).symm
  cases here : core.pipeline.main with
  | pushing work =>
      obtain ⟨isOpen, unready⟩ := waiting .raw (.push work) (by simp only [Core.call, here]; rfl)
      exact Or.inl ⟨isOpen, push_unready unready⟩
  | failing exn stage =>
      have outside := blocked.outside_of_failing .main stage (by simp only [Core.call, here]; rfl)
      exact Or.inr (rests outside)
  | closingRaw =>
      exact absurd (by simp only [Core.call, here]; rfl) (blocked.not_closing .main .raw)
  | closingDecoded =>
      exact absurd (by simp only [Core.call, here]; rfl) (blocked.not_closing .main .decoded)
  | _ => exact Or.inr (rests (by simp only [Core.call, here]; rfl))

/-- The writer left a closed queue behind. -/
theorem closed_of_writer (inv : Shutdown core.pipeline) (ends : Ends core)
    (finished : core.Finished .writer) : core.pipeline.decodedQueue.closed = true := by
  rcases finished with completed | failed
  · have place := inv.writer
    rw [completed] at place
    exact place.1.1
  · exact ends.failed failed

/-- No decoder waits for room: the writer would wait for a value, or would have closed
the queue. -/
theorem Blocked.decoder_idle (blocked : Blocked core) (inv : Shutdown core.pipeline)
    (ends : Ends core) (i : Fin decoders) :
    (core.pipeline.rawQueue.closed = false ∧ core.pipeline.rawQueue.queue = []) ∨
      core.pipeline.decoder i = .done := by
  rcases blocked.decoder i with idle | ⟨isOpen, filled⟩ | done
  · exact Or.inl idle
  · rcases blocked.writer with ⟨_, empty⟩ | finished
    · exact absurd empty filled
    · rw [closed_of_writer inv ends finished] at isOpen
      cases isOpen
  · exact Or.inr done

/-- A decoder that has left closed the raw queue, or the failure did. -/
theorem closed_of_decoder (inv : Shutdown core.pipeline) {i : Fin decoders}
    (done : core.pipeline.decoder i = .done) : core.pipeline.rawQueue.closed = true := by
  have place := inv.decoder i
  rw [done] at place
  rcases place with drained | aborted
  · exact drained.1
  · exact inv.rawFirst aborted.1

/-- Where the main thread joins whom. -/
theorem MainPc.Awaits.place {pc : MainPc} {other : ThreadId decoders} (awaits : pc.Awaits other) :
    (∃ next i, pc = .joining next ∧ other = .decoder i) ∨ (pc = .joiningWriter ∧ other = .writer) ∨
      (pc = .rethrowing ∧ other = .progress) := by
  unfold MainPc.Awaits at awaits
  split at awaits
  · exact Or.inl ⟨_, _, rfl, rfl⟩
  · exact Or.inr (Or.inl ⟨rfl, rfl⟩)
  · exact Or.inr (Or.inr ⟨rfl, rfl⟩)
  · exact awaits.elim

/-- The main thread waits for nobody. -/
theorem Blocked.main_finished (blocked : Blocked core) (inv : Shutdown core.pipeline)
    (ends : Ends core) (some : 0 < decoders) : core.Finished .main := by
  rcases blocked.main with ⟨isOpen, filled⟩ | joins | finished
  · rcases blocked.decoder_idle inv ends ⟨0, some⟩ with ⟨_, empty⟩ | done
    · exact absurd empty filled
    · rw [closed_of_decoder inv done] at isOpen
      cases isOpen
  · have place := inv.main
    obtain ⟨other, awaits, unfinished⟩ := joins
    rcases awaits.place with ⟨next, i, joining, rfl⟩ | ⟨joining, rfl⟩ | ⟨rethrowing, rfl⟩
    · rw [joining] at place
      rcases blocked.decoder_idle inv ends i with ⟨isOpen, _⟩ | done
      · rw [place.1] at isOpen
        cases isOpen
      · exact absurd done unfinished
    · rw [joining] at place
      rcases blocked.writer with ⟨isOpen, _⟩ | finished
      · rw [place.1] at isOpen
        cases isOpen
      · exact absurd finished unfinished
    · rcases blocked.progress with ⟨_, still⟩ | finished
      · exact absurd rethrowing still
      · exact absurd finished unfinished
  · exact finished

/-- When the main thread has finished all have. -/
theorem finished_of_main (inv : Shutdown core.pipeline) (ends : Ends core)
    (finished : core.Finished .main) (thread : ThreadId decoders) : core.Finished thread := by
  have place := inv.main
  have joined : core.pipeline.AllDone ∧ core.pipeline.WriterEnded := by
    rcases finished with returned | ⟨exn, threw⟩
    · rw [returned] at place
      exact ⟨place.2.1, place.2.2.1⟩
    · rw [threw] at place
      exact ⟨place.2.1, place.2.2⟩
  cases thread with
  | main => exact finished
  | decoder i => exact joined.1 i
  | writer => exact joined.2
  | progress => exact ends.progress finished

/-- **Nothing moves only when all have finished.** -/
theorem Blocked.finished (blocked : Blocked core) (inv : Shutdown core.pipeline) (ends : Ends core)
    (some : 0 < decoders) (thread : ThreadId decoders) : core.Finished thread :=
  finished_of_main inv ends (blocked.main_finished inv ends some) thread

end Blocked

end Stgs.Station
