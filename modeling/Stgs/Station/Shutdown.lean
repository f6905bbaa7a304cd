/-
# Station.Shutdown -- who may have closed what

Two protocols close the queues, and threads leave at moments of their own.  The
invariant `Shutdown` says, thread by thread, what its program counter tells about
the queues and the recorded exception:

* a decoder leaves when the raw queue is drained, or else after a failure closed
  the decoded queue;
* the writer leaves its loop when the decoded queue is drained;
* before `stopWorkers` a closed queue means a recorded exception, and the decoded
  queue is not closed by `stopWorkers` before all decoders left;
* an item is lost only with a decoder that failed, or to a decoded queue closed
  by a failure.

A step of one thread moves the others' facts along `Later`.
-/
import Stgs.Station.Pipeline

namespace Stgs.Station

open Stgs.Concurrent Stgs.Theory.Transition Stgs.Wire

set_option autoImplicit false

variable {decoders : Nat}

namespace PipelineState

/-- A failure closed the decoded queue. -/
def Aborted (state : PipelineState decoders) : Prop :=
  state.decodedQueue.closed = true ∧ state.failure.isSome = true

/-- What the calls of `failPipeline` before this one did. -/
def Stopping (state : PipelineState decoders) : FailStage → Prop
  | .capturing => True
  | .clearing | .closingRaw => state.failure.isSome = true
  | .closingDecoded => state.failure.isSome = true ∧ state.rawQueue.closed = true

/-- A closed queue means a recorded exception. -/
def Guarded (state : PipelineState decoders) : Prop :=
  (state.rawQueue.closed = true → state.failure.isSome = true) ∧
    (state.decodedQueue.closed = true → state.failure.isSome = true)

def AllDone (state : PipelineState decoders) : Prop := ∀ i, state.decoder i = .done

def WriterEnded (state : PipelineState decoders) : Prop :=
  state.writer = .completed ∨ state.writer = .failed

/-- What the main thread's place tells. -/
def MainOk (state : PipelineState decoders) : MainPc → Prop
  | .receiving | .pushing _ | .refused | .counting | .closingRaw => state.Guarded
  | .failing _ stage => state.Guarded ∧ state.Stopping stage
  | .joining next =>
      state.rawQueue.closed = true ∧
        (state.decodedQueue.closed = true → state.failure.isSome = true) ∧
          ∀ i : Fin decoders, i < next → state.decoder i = .done
  | .closingDecoded =>
      state.rawQueue.closed = true ∧
        (state.decodedQueue.closed = true → state.failure.isSome = true) ∧ state.AllDone
  | .joiningWriter => state.decodedQueue.closed = true ∧ state.AllDone
  | .rethrowing | .threw _ =>
      state.decodedQueue.closed = true ∧ state.AllDone ∧ state.WriterEnded
  | .returned =>
      state.decodedQueue.closed = true ∧ state.AllDone ∧ state.WriterEnded ∧ state.failure = none

/-- What a decoder's place tells. -/
def DecoderOk (state : PipelineState decoders) : DecoderPc → Prop
  | .failing _ stage => state.Stopping stage
  | .done => state.rawQueue.Drained ∨ state.Aborted
  | _ => True

/-- What the writer's place tells. -/
def WriterOk (state : PipelineState decoders) : WriterPc → Prop
  | .checking => state.decodedQueue.Drained
  | .storing | .finishing | .completed => state.decodedQueue.Drained ∧ state.pending = []
  | .failing _ stage => state.Stopping stage
  | .failed => state.failure.isSome = true
  | _ => True

/-- The writer has not thrown. -/
def WriterHealthy (state : PipelineState decoders) : Prop :=
  (∀ failure stage, state.writer ≠ .failing failure stage) ∧ state.writer ≠ .failed

theorem healthy_congr {state next : PipelineState decoders} (same : next.writer = state.writer) :
    next.WriterHealthy ↔ state.WriterHealthy := by
  rw [WriterHealthy, WriterHealthy, same]

/-- A failure leads to a failure. -/
theorem WriterHealthy.not_afterFail {state : PipelineState decoders}
    (healthy : state.WriterHealthy) (failure : Failure) (stage : FailStage) :
    state.writer ≠ .afterFail failure stage := by
  intro here
  cases follows : stage.next with
  | some following =>
      exact healthy.1 failure following (by simp [here, WriterPc.afterFail, follows])
  | none => exact healthy.2 (by simp [here, WriterPc.afterFail, follows])

end PipelineState

structure Shutdown (state : PipelineState decoders) : Prop where
  main : state.MainOk state.main
  decoder : ∀ i, state.DecoderOk (state.decoder i)
  writer : state.WriterOk state.writer
  rawFirst : state.decodedQueue.closed = true → state.rawQueue.closed = true
  lost : state.lost ≠ 0 →
    (∃ i exn stage, state.decoder i = .failing exn stage) ∨ state.Aborted
  source : ∀ failure, state.failure = some failure →
    (∃ exn, failure = .environment exn) ∨ ¬ state.WriterHealthy

/-! ## Facts that stay -/

/-- What no step undoes. -/
structure Later (state next : PipelineState decoders) : Prop where
  failure : state.failure.isSome = true → next.failure.isSome = true
  raw : state.rawQueue.Ahead next.rawQueue
  decoded : state.decodedQueue.Ahead next.decodedQueue

section Later

variable {state next : PipelineState decoders} (later : Later state next)

include later

theorem Later.aborted (aborted : state.Aborted) : next.Aborted :=
  ⟨later.decoded.closed aborted.1, later.failure aborted.2⟩

theorem Later.stopping {stage : FailStage} (stopping : state.Stopping stage) :
    next.Stopping stage := by
  cases stage with
  | capturing => trivial
  | clearing => exact later.failure stopping
  | closingRaw => exact later.failure stopping
  | closingDecoded => exact ⟨later.failure stopping.1, later.raw.closed stopping.2⟩

theorem Later.decoderOk {pc : DecoderPc} (ok : state.DecoderOk pc) : next.DecoderOk pc := by
  cases pc with
  | failing exn stage => exact later.stopping ok
  | done => exact ok.imp later.raw.drained later.aborted
  | _ => trivial

theorem Later.writerOk (pending : next.pending = state.pending) {pc : WriterPc}
    (ok : state.WriterOk pc) : next.WriterOk pc := by
  cases pc with
  | checking => exact later.decoded.drained ok
  | storing => exact ⟨later.decoded.drained ok.1, pending.trans ok.2⟩
  | finishing => exact ⟨later.decoded.drained ok.1, pending.trans ok.2⟩
  | completed => exact ⟨later.decoded.drained ok.1, pending.trans ok.2⟩
  | failing failure stage => exact later.stopping ok
  | failed => exact later.failure ok
  | _ => trivial

end Later

/-- The main thread's facts stay too, if the step closes nothing without a failure
and no thread that left comes back. -/
theorem Later.mainOk {state next : PipelineState decoders} (later : Later state next)
    (raw : next.rawQueue.closed = true →
      state.rawQueue.closed = true ∨ next.failure.isSome = true)
    (decoded : next.decodedQueue.closed = true →
      state.decodedQueue.closed = true ∨ next.failure.isSome = true)
    (gone : ∀ i, state.decoder i = .done → next.decoder i = .done)
    (ended : state.WriterEnded → next.WriterEnded)
    (kept : state.AllDone → state.WriterEnded → next.failure = state.failure) {pc : MainPc}
    (ok : state.MainOk pc) : next.MainOk pc := by
  have blame (before : state.decodedQueue.closed = true → state.failure.isSome = true)
      (closed : next.decodedQueue.closed = true) : next.failure.isSome = true :=
    (decoded closed).elim (fun earlier => later.failure (before earlier)) id
  have guarded (before : state.Guarded) : next.Guarded :=
    ⟨fun closed => (raw closed).elim (fun earlier => later.failure (before.1 earlier)) id,
      blame before.2⟩
  have allDone (before : state.AllDone) : next.AllDone := fun i => gone i (before i)
  cases pc with
  | receiving => exact guarded ok
  | pushing work => exact guarded ok
  | refused => exact guarded ok
  | counting => exact guarded ok
  | closingRaw => exact guarded ok
  | failing exn stage => exact ⟨guarded ok.1, later.stopping ok.2⟩
  | joining next =>
      exact ⟨later.raw.closed ok.1, blame ok.2.1, fun i below => gone i (ok.2.2 i below)⟩
  | closingDecoded => exact ⟨later.raw.closed ok.1, blame ok.2.1, allDone ok.2.2⟩
  | joiningWriter => exact ⟨later.decoded.closed ok.1, allDone ok.2⟩
  | rethrowing => exact ⟨later.decoded.closed ok.1, allDone ok.2.1, ended ok.2.2⟩
  | threw exn => exact ⟨later.decoded.closed ok.1, allDone ok.2.1, ended ok.2.2⟩
  | returned =>
      obtain ⟨closed, done, left, clean⟩ := ok
      exact ⟨later.decoded.closed closed, allDone done, ended left, (kept done left).trans clean⟩

/-! ## failPipeline -/

section Fail

variable (failure : Failure) (stage : FailStage) (state : PipelineState decoders)

@[simp] theorem fail_main : (state.fail failure stage).main = state.main := by cases stage <;> rfl

@[simp] theorem fail_decoder : (state.fail failure stage).decoder = state.decoder := by
  cases stage <;> rfl

@[simp] theorem fail_writer : (state.fail failure stage).writer = state.writer := by
  cases stage <;> rfl

@[simp] theorem fail_pending : (state.fail failure stage).pending = state.pending := by
  cases stage <;> rfl

@[simp] theorem fail_lost : (state.fail failure stage).lost = state.lost := by cases stage <;> rfl

@[simp] theorem fail_delivered : (state.fail failure stage).delivered = state.delivered := by
  cases stage <;> rfl

@[simp] theorem fail_rawQueue_queue :
    (state.fail failure stage).rawQueue.queue = state.rawQueue.queue := by cases stage <;> rfl

@[simp] theorem fail_decodedQueue_queue :
    (state.fail failure stage).decodedQueue.queue = state.decodedQueue.queue := by
  cases stage <;> rfl

end Fail

/-- A call of `failPipeline` undoes nothing. -/
theorem fail_later (failure : Failure) (stage : FailStage) (state : PipelineState decoders) :
    Later state (state.fail failure stage) := by
  cases stage with
  | capturing =>
      refine ⟨fun recorded => ?_, .refl _, .refl _⟩
      obtain ⟨first, found⟩ := Option.isSome_iff_exists.mp recorded
      simp [PipelineState.fail, found]
  | clearing => exact ⟨id, .refl _, .refl _⟩
  | closingRaw => exact ⟨id, BlockingQueue.close_ahead _, .refl _⟩
  | closingDecoded => exact ⟨id, .refl _, BlockingQueue.close_ahead _⟩

/-- The call after this one finds what this one did. -/
theorem fail_stopping (failure : Failure) {stage next : FailStage} {state : PipelineState decoders}
    (stopping : state.Stopping stage) (follows : stage.next = some next) :
    (state.fail failure stage).Stopping next := by
  cases stage with
  | capturing =>
      obtain rfl := Option.some.inj follows
      cases recorded : state.failure <;> simp [PipelineState.Stopping, PipelineState.fail, recorded]
  | clearing =>
      obtain rfl := Option.some.inj follows
      exact stopping
  | closingRaw =>
      obtain rfl := Option.some.inj follows
      exact ⟨stopping, rfl⟩
  | closingDecoded => cases follows

/-- The last call leaves the queues closed by a failure. -/
theorem fail_aborted (failure : Failure) {stage : FailStage} {state : PipelineState decoders}
    (stopping : state.Stopping stage) (last : stage.next = none) :
    (state.fail failure stage).Aborted := by
  cases stage with
  | closingDecoded => exact ⟨rfl, stopping.1⟩
  | _ => cases last

/-- What a failing thread closes, a failure was recorded for. -/
theorem fail_guarded (failure : Failure) {stage : FailStage} {state : PipelineState decoders}
    (stopping : state.Stopping stage) :
    ((state.fail failure stage).rawQueue.closed = true →
        state.rawQueue.closed = true ∨ (state.fail failure stage).failure.isSome = true) ∧
      ((state.fail failure stage).decodedQueue.closed = true →
        state.decodedQueue.closed = true ∨ (state.fail failure stage).failure.isSome = true) := by
  cases stage with
  | capturing => exact ⟨Or.inl, Or.inl⟩
  | clearing => exact ⟨Or.inl, Or.inl⟩
  | closingRaw => exact ⟨fun _ => Or.inr stopping, Or.inl⟩
  | closingDecoded => exact ⟨Or.inl, fun _ => Or.inr stopping.1⟩

theorem fail_rawFirst {failure : Failure} {stage : FailStage} {state : PipelineState decoders}
    (stopping : state.Stopping stage)
    (rawFirst : state.decodedQueue.closed = true → state.rawQueue.closed = true) :
    (state.fail failure stage).decodedQueue.closed = true →
      (state.fail failure stage).rawQueue.closed = true := by
  cases stage with
  | capturing => exact rawFirst
  | clearing => exact rawFirst
  | closingRaw => exact fun _ => rfl
  | closingDecoded => exact fun _ => stopping.2

/-- A recorded exception is the first one. -/
theorem fail_failure {failure : Failure} {stage : FailStage} {state : PipelineState decoders}
    {recorded : Failure} (found : (state.fail failure stage).failure = some recorded) :
    state.failure = some recorded ∨ recorded = failure := by
  cases stage with
  | capturing =>
      cases before : state.failure with
      | none =>
          simp only [PipelineState.fail, before, Option.none_or] at found
          exact Or.inr (Option.some.inj found).symm
      | some first =>
          simp only [PipelineState.fail, before, Option.some_or] at found
          exact Or.inl found
  | clearing => exact Or.inl found
  | closingRaw => exact Or.inl found
  | closingDecoded => exact Or.inl found

/-- The first exception stays. -/
theorem fail_first {failure first : Failure} {stage : FailStage} {state : PipelineState decoders}
    (found : state.failure = some first) : (state.fail failure stage).failure = some first := by
  cases stage with
  | capturing => simp only [PipelineState.fail, found, Option.some_or]
  | _ => exact found

/-! ## Steps of the main thread -/

theorem shutdown_initial (options : Options) (health : StationHealthMonitor) :
    Shutdown (PipelineState.initial options health) where
  main := ⟨nofun, nofun⟩
  decoder := fun _ => trivial
  writer := trivial
  rawFirst := nofun
  lost := fun some => absurd rfl some
  source := nofun

theorem mainStep_later {state next : PipelineState decoders} (step : MainStep state next) :
    Later state next := by
  cases step with
  | pushes pushing pushed => exact ⟨id, BlockingQueue.push_ahead pushed, .refl _⟩
  | refuses pushing pushed => exact ⟨id, BlockingQueue.push_ahead pushed, .refl _⟩
  | fails failing =>
      obtain ⟨failure, raw, decoded⟩ := fail_later (.environment _) _ state
      exact ⟨failure, raw, decoded⟩
  | closesRaw closing => exact ⟨id, BlockingQueue.close_ahead _, .refl _⟩
  | closesDecoded closing => exact ⟨id, .refl _, BlockingQueue.close_ahead _⟩
  | _ => exact ⟨id, .refl _, .refl _⟩

/-- The main thread touches no other thread. -/
theorem mainStep_frame {state next : PipelineState decoders} (step : MainStep state next) :
    next.decoder = state.decoder ∧ next.writer = state.writer ∧ next.pending = state.pending ∧
      next.lost = state.lost := by
  cases step with
  | fails failing =>
      exact ⟨fail_decoder _ _ _, fail_writer _ _ _, fail_pending _ _ _, fail_lost _ _ _⟩
  | _ => exact ⟨rfl, rfl, rfl, rfl⟩

theorem mainStep_main {state next : PipelineState decoders} (inv : Shutdown state)
    (step : MainStep state next) : next.MainOk next.main := by
  have place := inv.main
  cases step with
  | submits bytes receiving =>
      rw [receiving] at place
      exact place
  | pushes pushing pushed =>
      rw [pushing] at place
      have closed := BlockingQueue.push_closed pushed
      exact ⟨fun now => place.1 (closed.symm.trans now), place.2⟩
  | refuses pushing pushed =>
      rw [pushing] at place
      have closed := BlockingQueue.push_closed pushed
      exact ⟨fun now => place.1 (closed.symm.trans now), place.2⟩
  | stops refused =>
      rw [refused] at place
      exact place
  | counts counting =>
      rw [counting] at place
      exact place
  | ends receiving =>
      rw [receiving] at place
      exact place
  | throws exn may =>
      refine ⟨?_, trivial⟩
      cases here : state.main with
      | receiving =>
          rw [here] at place
          exact place
      | pushing work =>
          rw [here] at place
          exact place
      | _ =>
          rw [here] at may
          exact may.elim
  | @fails exn stage failing =>
      rw [failing] at place
      obtain ⟨guarded, stopping⟩ := place
      have later := fail_later (.environment exn) stage state
      obtain ⟨raw, decoded⟩ := fail_guarded (.environment exn) stopping
      have after : (state.fail (.environment exn) stage).Guarded :=
        ⟨fun closed => (raw closed).elim (fun earlier => later.failure (guarded.1 earlier)) id,
          fun closed => (decoded closed).elim (fun earlier => later.failure (guarded.2 earlier)) id⟩
      cases follows : stage.next with
      | some following =>
          simp only [MainPc.afterFail, follows]
          exact ⟨after, fail_stopping (.environment exn) stopping follows⟩
      | none =>
          simp only [MainPc.afterFail, follows]
          exact after
  | closesRaw closing =>
      rw [closing] at place
      exact ⟨rfl, place.2, fun i below => absurd below (Nat.not_lt_zero _)⟩
  | @joins next joining below ended =>
      rw [joining] at place
      refine ⟨place.1, place.2.1, fun i within => ?_⟩
      rcases Nat.lt_succ_iff_lt_or_eq.mp within with earlier | this
      · exact place.2.2 i earlier
      · have same : i = ⟨next, below⟩ := Fin.ext this
        rw [same]
        exact ended
  | joinsAll joining =>
      rw [joining] at place
      exact ⟨place.1, place.2.1, fun i => place.2.2 i i.isLt⟩
  | closesDecoded closing =>
      rw [closing] at place
      exact ⟨rfl, place.2.2⟩
  | joinsWriter joining ended =>
      rw [joining] at place
      exact ⟨place.1, place.2, ended⟩
  | returns rethrowing clean =>
      rw [rethrowing] at place
      exact ⟨place.1, place.2.1, place.2.2, clean⟩
  | rethrows rethrowing caught =>
      rw [rethrowing] at place
      exact place

theorem mainStep_rawFirst {state next : PipelineState decoders} (inv : Shutdown state)
    (step : MainStep state next) (closed : next.decodedQueue.closed = true) :
    next.rawQueue.closed = true := by
  have place := inv.main
  cases step with
  | pushes pushing pushed =>
      rw [BlockingQueue.push_closed pushed]
      exact inv.rawFirst closed
  | refuses pushing pushed =>
      rw [BlockingQueue.push_closed pushed]
      exact inv.rawFirst closed
  | fails failing =>
      rw [failing] at place
      exact fail_rawFirst place.2 inv.rawFirst closed
  | closesRaw closing => rfl
  | closesDecoded closing =>
      rw [closing] at place
      exact place.1
  | _ => exact inv.rawFirst closed

theorem shutdown_main {state next : PipelineState decoders} (inv : Shutdown state)
    (step : MainStep state next) : Shutdown next := by
  have later := mainStep_later step
  obtain ⟨decoder, writer, pending, lost⟩ := mainStep_frame step
  refine ⟨mainStep_main inv step, ?_, ?_, mainStep_rawFirst inv step, ?_, ?_⟩
  · intro i
    rw [decoder]
    exact later.decoderOk (inv.decoder i)
  · rw [writer]
    exact later.writerOk pending inv.writer
  · rw [lost, decoder]
    exact fun some => (inv.lost some).imp_right later.aborted
  · intro failure recorded
    have healthy := not_congr (PipelineState.healthy_congr writer)
    cases step with
    | fails failing =>
        rcases fail_failure recorded with earlier | rfl
        · exact (inv.source failure earlier).imp_right healthy.mpr
        · exact Or.inl ⟨_, rfl⟩
    | _ => exact inv.source failure recorded

/-! ## Steps of a decoder -/

theorem decoderStep_later {i : Fin decoders} {state next : PipelineState decoders}
    (step : DecoderStep i state next) : Later state next := by
  cases step with
  | pops popping popped => exact ⟨id, BlockingQueue.pop_ahead popped, .refl _⟩
  | finishes popping popped => exact ⟨id, BlockingQueue.pop_ahead popped, .refl _⟩
  | pushes pushing pushed => exact ⟨id, .refl _, BlockingQueue.push_ahead pushed⟩
  | refuses pushing pushed => exact ⟨id, .refl _, BlockingQueue.push_ahead pushed⟩
  | fails failing =>
      obtain ⟨failure, raw, decoded⟩ := fail_later (.environment _) _ state
      exact ⟨failure, raw, decoded⟩
  | _ => exact ⟨id, .refl _, .refl _⟩

/-- A decoder touches neither the main thread nor the writer. -/
theorem decoderStep_frame {i : Fin decoders} {state next : PipelineState decoders}
    (step : DecoderStep i state next) :
    next.main = state.main ∧ next.writer = state.writer ∧ next.pending = state.pending := by
  cases step with
  | fails failing => exact ⟨fail_main _ _ _, fail_writer _ _ _, fail_pending _ _ _⟩
  | _ => exact ⟨rfl, rfl, rfl⟩

/-- What a decoder closes, a failure was recorded for. -/
theorem decoderStep_guarded {i : Fin decoders} {state next : PipelineState decoders}
    (inv : Shutdown state) (step : DecoderStep i state next) :
    (next.rawQueue.closed = true →
        state.rawQueue.closed = true ∨ next.failure.isSome = true) ∧
      (next.decodedQueue.closed = true →
        state.decodedQueue.closed = true ∨ next.failure.isSome = true) := by
  cases step with
  | pops popping popped =>
      exact ⟨fun now => Or.inl ((BlockingQueue.pop_closed popped).symm.trans now), Or.inl⟩
  | finishes popping popped =>
      exact ⟨fun now => Or.inl ((BlockingQueue.pop_closed popped).symm.trans now), Or.inl⟩
  | pushes pushing pushed =>
      exact ⟨Or.inl, fun now => Or.inl ((BlockingQueue.push_closed pushed).symm.trans now)⟩
  | refuses pushing pushed =>
      exact ⟨Or.inl, fun now => Or.inl ((BlockingQueue.push_closed pushed).symm.trans now)⟩
  | fails failing =>
      have stopping := inv.decoder i
      rw [failing] at stopping
      exact fail_guarded _ stopping
  | _ => exact ⟨Or.inl, Or.inl⟩

/-- A decoded queue closed while a decoder is at work was closed by a failure. -/
theorem Shutdown.aborted_of_closed {state : PipelineState decoders} (inv : Shutdown state)
    {i : Fin decoders} (working : state.decoder i ≠ .done)
    (closed : state.decodedQueue.closed = true) : state.Aborted := by
  have place := inv.main
  refine ⟨closed, ?_⟩
  cases here : state.main with
  | failing exn stage =>
      rw [here] at place
      exact place.1.2 closed
  | joining next =>
      rw [here] at place
      exact place.2.1 closed
  | closingDecoded =>
      rw [here] at place
      exact place.2.1 closed
  | joiningWriter =>
      rw [here] at place
      exact absurd (place.2 i) working
  | rethrowing =>
      rw [here] at place
      exact absurd (place.2.1 i) working
  | returned =>
      rw [here] at place
      exact absurd (place.2.1 i) working
  | threw exn =>
      rw [here] at place
      exact absurd (place.2.1 i) working
  | _ =>
      rw [here] at place
      exact place.2 closed

/-- **What a step of a decoder does to it**: it was at work, and its new place is
right. -/
theorem decoderStep_self {i : Fin decoders} {state next : PipelineState decoders}
    (inv : Shutdown state) (step : DecoderStep i state next) :
    state.decoder i ≠ .done ∧
      ∃ after, next.decoder = Function.update state.decoder i after ∧ next.DecoderOk after := by
  cases step with
  | pops popping popped => exact ⟨by simp [popping], _, rfl, trivial⟩
  | finishes popping popped =>
      obtain ⟨closed, empty, rfl⟩ := BlockingQueue.pop_nothing popped
      exact ⟨by simp [popping], _, rfl, Or.inl ⟨closed, empty⟩⟩
  | decodes decoding => exact ⟨by simp [decoding], _, rfl, trivial⟩
  | pushes pushing pushed => exact ⟨by simp [pushing], _, rfl, trivial⟩
  | refuses pushing pushed =>
      have working : state.decoder i ≠ .done := by simp [pushing]
      obtain ⟨closed, rfl⟩ := BlockingQueue.push_refused pushed
      exact ⟨working, _, rfl, Or.inr (inv.aborted_of_closed working closed)⟩
  | logs logging => exact ⟨by simp [logging], _, rfl, trivial⟩
  | throws exn may =>
      refine ⟨fun done => ?_, _, rfl, trivial⟩
      rw [done] at may
      exact may
  | @fails exn stage failing =>
      have stopping := inv.decoder i
      rw [failing] at stopping
      refine ⟨by simp [failing], _, rfl, ?_⟩
      cases follows : stage.next with
      | some following =>
          simp only [DecoderPc.afterFail, follows]
          exact fail_stopping (.environment exn) stopping follows
      | none =>
          simp only [DecoderPc.afterFail, follows]
          exact Or.inr (fail_aborted (.environment exn) stopping follows)

theorem decoderStep_rawFirst {i : Fin decoders} {state next : PipelineState decoders}
    (inv : Shutdown state) (step : DecoderStep i state next)
    (closed : next.decodedQueue.closed = true) : next.rawQueue.closed = true := by
  cases step with
  | pops popping popped =>
      rw [BlockingQueue.pop_closed popped]
      exact inv.rawFirst closed
  | finishes popping popped =>
      rw [BlockingQueue.pop_closed popped]
      exact inv.rawFirst closed
  | pushes pushing pushed =>
      exact inv.rawFirst ((BlockingQueue.push_closed pushed).symm.trans closed)
  | refuses pushing pushed =>
      exact inv.rawFirst ((BlockingQueue.push_closed pushed).symm.trans closed)
  | fails failing =>
      have stopping := inv.decoder i
      rw [failing] at stopping
      exact fail_rawFirst stopping inv.rawFirst closed
  | _ => exact inv.rawFirst closed

/-- A loss has a failing decoder or an aborted queue behind it. -/
theorem decoderStep_lost {i : Fin decoders} {state next : PipelineState decoders}
    (inv : Shutdown state) (step : DecoderStep i state next) (some : next.lost ≠ 0) :
    (∃ j exn stage, next.decoder j = .failing exn stage) ∨ next.Aborted := by
  have later := decoderStep_later step
  obtain ⟨working, after, update, ok⟩ := decoderStep_self inv step
  -- a failing decoder other than this one is still failing
  have elsewhere (was : state.lost ≠ 0)
      (here : ∀ exn stage, state.decoder i = .failing exn stage →
        (∃ exn stage, after = .failing exn stage) ∨ next.Aborted) :
      (∃ j exn stage, next.decoder j = .failing exn stage) ∨ next.Aborted := by
    rcases inv.lost was with ⟨j, exn, stage, failing⟩ | aborted
    · by_cases this : j = i
      · subst this
        rcases here exn stage failing with ⟨exn, stage, still⟩ | aborted
        · exact Or.inl ⟨j, exn, stage, by rw [update, Function.update_self, still]⟩
        · exact Or.inr aborted
      · exact Or.inl ⟨j, exn, stage, by rw [update, Function.update_of_ne this, failing]⟩
    · exact Or.inr (later.aborted aborted)
  cases step with
  | refuses pushing pushed =>
      obtain ⟨closed, rfl⟩ := BlockingQueue.push_refused pushed
      exact Or.inr (inv.aborted_of_closed working closed)
  | throws exn may => exact Or.inl ⟨i, exn, .capturing, Function.update_self ..⟩
  | @fails exn stage failing =>
      rw [fail_lost] at some
      have same : after = .afterFail exn stage := by
        have here : Function.update state.decoder i (.afterFail exn stage) i =
            Function.update state.decoder i after i := congrFun update i
        rw [Function.update_self, Function.update_self] at here
        exact here.symm
      refine elsewhere some fun _ _ _ => ?_
      cases follows : stage.next with
      | some following => exact Or.inl ⟨exn, following, by simp [same, DecoderPc.afterFail, follows]⟩
      | none =>
          have stopping := inv.decoder i
          rw [failing] at stopping
          exact Or.inr (fail_aborted (.environment exn) stopping follows)
  | pops popping popped => exact elsewhere some fun _ _ failing => by simp [popping] at failing
  | finishes popping popped => exact elsewhere some fun _ _ failing => by simp [popping] at failing
  | decodes decoding => exact elsewhere some fun _ _ failing => by simp [decoding] at failing
  | pushes pushing pushed => exact elsewhere some fun _ _ failing => by simp [pushing] at failing
  | logs logging => exact elsewhere some fun _ _ failing => by simp [logging] at failing

theorem shutdown_decoder {i : Fin decoders} {state next : PipelineState decoders}
    (inv : Shutdown state) (step : DecoderStep i state next) : Shutdown next := by
  have later := decoderStep_later step
  obtain ⟨main, writer, pending⟩ := decoderStep_frame step
  obtain ⟨raw, decoded⟩ := decoderStep_guarded inv step
  obtain ⟨working, after, update, ok⟩ := decoderStep_self inv step
  have others (j : Fin decoders) (other : j ≠ i) : next.decoder j = state.decoder j := by
    rw [update, Function.update_of_ne other]
  have gone (j : Fin decoders) (done : state.decoder j = .done) : next.decoder j = .done := by
    rw [others j fun this => working (this ▸ done), done]
  refine ⟨?_, ?_, ?_, decoderStep_rawFirst inv step, decoderStep_lost inv step, ?_⟩
  · rw [main]
    refine later.mainOk raw decoded gone (fun ended => ?_) (fun all => absurd (all i) working) inv.main
    rwa [PipelineState.WriterEnded, writer]
  · intro j
    by_cases this : j = i
    · rw [this, update, Function.update_self]
      exact ok
    · rw [others j this]
      exact later.decoderOk (inv.decoder j)
  · rw [writer]
    exact later.writerOk pending inv.writer
  · intro failure recorded
    have healthy := not_congr (PipelineState.healthy_congr writer)
    cases step with
    | fails failing =>
        rcases fail_failure recorded with earlier | rfl
        · exact (inv.source failure earlier).imp_right healthy.mpr
        · exact Or.inl ⟨_, rfl⟩
    | _ => exact inv.source failure recorded

/-! ## Steps of the writer -/

/-- A writer that may throw has neither ended nor failed. -/
theorem WriterPc.MayThrow.running {pc : WriterPc} (may : pc.MayThrow) :
    pc ≠ .completed ∧ pc ≠ .failed ∧ ∀ failure stage, pc ≠ .failing failure stage := by
  cases pc with
  | completed => exact may.elim
  | failing failure stage => exact may.elim
  | failed => exact may.elim
  | _ => exact ⟨nofun, nofun, nofun⟩

section Handles

variable {options : Options} {before after : WriterPc} {work next : WriterState}
  {updates later : List HealthUpdate} (handles : Handles options before work updates after next later)

include handles

/-- The calls on one result start and end where the writer may throw. -/
theorem handles_mayThrow : before.MayThrow ∧ after.MayThrow := by
  cases handles <;> exact ⟨trivial, trivial⟩

theorem handles_writerOk (state : PipelineState decoders) : state.WriterOk after := by
  cases handles <;> trivial

end Handles

theorem writerStep_later {options : Options} {state next : PipelineState decoders}
    (step : WriterStep options state next) : Later state next := by
  cases step with
  | pops popping popped => exact ⟨id, .refl _, BlockingQueue.pop_ahead popped⟩
  | drains popping popped => exact ⟨id, .refl _, BlockingQueue.pop_ahead popped⟩
  | fails failing =>
      obtain ⟨failure, raw, decoded⟩ := fail_later _ _ state
      exact ⟨failure, raw, decoded⟩
  | _ => exact ⟨id, .refl _, .refl _⟩

/-- The writer touches neither the main thread nor a decoder. -/
theorem writerStep_frame {options : Options} {state next : PipelineState decoders}
    (step : WriterStep options state next) :
    next.main = state.main ∧ next.decoder = state.decoder ∧ next.lost = state.lost := by
  cases step with
  | fails failing => exact ⟨fail_main _ _ _, fail_decoder _ _ _, fail_lost _ _ _⟩
  | _ => exact ⟨rfl, rfl, rfl⟩

theorem writerStep_guarded {options : Options} {state next : PipelineState decoders}
    (inv : Shutdown state) (step : WriterStep options state next) :
    (next.rawQueue.closed = true →
        state.rawQueue.closed = true ∨ next.failure.isSome = true) ∧
      (next.decodedQueue.closed = true →
        state.decodedQueue.closed = true ∨ next.failure.isSome = true) := by
  cases step with
  | pops popping popped =>
      exact ⟨Or.inl, fun now => Or.inl ((BlockingQueue.pop_closed popped).symm.trans now)⟩
  | drains popping popped =>
      exact ⟨Or.inl, fun now => Or.inl ((BlockingQueue.pop_closed popped).symm.trans now)⟩
  | fails failing =>
      have stopping := inv.writer
      rw [failing] at stopping
      exact fail_guarded _ stopping
  | _ => exact ⟨Or.inl, Or.inl⟩

/-- **What a step of the writer does to it**: it had not ended, and its new place is
right. -/
theorem writerStep_self {options : Options} {state next : PipelineState decoders}
    (inv : Shutdown state) (step : WriterStep options state next) :
    ¬ state.WriterEnded ∧ next.WriterOk next.writer := by
  have place := inv.writer
  have running {pc : WriterPc} (here : state.writer = pc) (completed : pc ≠ .completed)
      (failed : pc ≠ .failed) : ¬ state.WriterEnded := by
    rintro (ended | ended)
    · exact completed (here.symm.trans ended)
    · exact failed (here.symm.trans ended)
  cases step with
  | pops popping popped => exact ⟨running popping nofun nofun, trivial⟩
  | drains popping popped =>
      obtain ⟨closed, empty, rfl⟩ := BlockingQueue.pop_nothing popped
      exact ⟨running popping nofun nofun, closed, empty⟩
  | inserts inserting fresh => exact ⟨running inserting nofun nofun, trivial⟩
  | duplicates inserting present same => exact ⟨running inserting nofun nofun, trivial⟩
  | finds finding present next => exact ⟨running finding nofun nofun, trivial⟩
  | waits finding missing => exact ⟨running finding nofun nofun, trivial⟩
  | handles handling =>
      have may := (handles_mayThrow handling).1
      exact ⟨running rfl may.running.1 may.running.2.1, handles_writerOk handling _⟩
  | erases erasing => exact ⟨running erasing nofun nofun, trivial⟩
  | checks checking empty =>
      rw [checking] at place
      exact ⟨running checking nofun nofun, place, empty⟩
  | gap checking left => exact ⟨running checking nofun nofun, trivial⟩
  | stores storing =>
      rw [storing] at place
      exact ⟨running storing nofun nofun, place⟩
  | finishes finishing =>
      rw [finishing] at place
      exact ⟨running finishing nofun nofun, place⟩
  | throwsPayload processing processed => exact ⟨running processing nofun nofun, trivial⟩
  | throws exn may =>
      refine ⟨?_, trivial⟩
      rintro (ended | ended)
      · rw [ended] at may
        exact may
      · rw [ended] at may
        exact may
  | @fails failure stage failing =>
      rw [failing] at place
      refine ⟨running failing nofun nofun, ?_⟩
      cases follows : stage.next with
      | some following =>
          simp only [WriterPc.afterFail, follows]
          exact fail_stopping failure place follows
      | none =>
          simp only [WriterPc.afterFail, follows]
          exact (fail_aborted failure place follows).2

theorem writerStep_rawFirst {options : Options} {state next : PipelineState decoders}
    (inv : Shutdown state) (step : WriterStep options state next)
    (closed : next.decodedQueue.closed = true) : next.rawQueue.closed = true := by
  cases step with
  | pops popping popped => exact inv.rawFirst ((BlockingQueue.pop_closed popped).symm.trans closed)
  | drains popping popped => exact inv.rawFirst ((BlockingQueue.pop_closed popped).symm.trans closed)
  | fails failing =>
      have stopping := inv.writer
      rw [failing] at stopping
      exact fail_rawFirst stopping inv.rawFirst closed
  | _ => exact inv.rawFirst closed

/-- A writer that failed does not recover. -/
theorem writerStep_healthy {options : Options} {state next : PipelineState decoders}
    (step : WriterStep options state next) (healthy : next.WriterHealthy) :
    state.WriterHealthy := by
  have here {pc : WriterPc} (place : state.writer = pc) (failing : ∀ failure stage,
      pc ≠ .failing failure stage) (failed : pc ≠ .failed) : state.WriterHealthy :=
    ⟨fun failure stage is => failing failure stage (place.symm.trans is),
      fun is => failed (place.symm.trans is)⟩
  cases step with
  | handles handling =>
      have may := (handles_mayThrow handling).1
      exact here rfl may.running.2.2 may.running.2.1
  | pops place popped | drains place popped | inserts place fresh
  | duplicates place present same | finds place present next | waits place missing
  | erases place | checks place empty | gap place left | stores place | finishes place
  | throwsPayload place processed => exact here place nofun nofun
  | throws exn may => exact absurd rfl (healthy.1 (.environment exn) .capturing)
  | @fails failure stage failing => exact absurd rfl (healthy.not_afterFail failure stage)

theorem shutdown_writer {options : Options} {state next : PipelineState decoders}
    (inv : Shutdown state) (step : WriterStep options state next) : Shutdown next := by
  have later := writerStep_later step
  obtain ⟨main, decoder, lost⟩ := writerStep_frame step
  obtain ⟨raw, decoded⟩ := writerStep_guarded inv step
  obtain ⟨running, place⟩ := writerStep_self inv step
  refine ⟨?_, ?_, place, writerStep_rawFirst inv step, ?_, ?_⟩
  · rw [main]
    exact later.mainOk raw decoded (fun i done => by rw [decoder, done])
      (fun ended => absurd ended running) (fun _ ended => absurd ended running) inv.main
  · intro i
    rw [decoder]
    exact later.decoderOk (inv.decoder i)
  · rw [lost, decoder]
    exact fun some => (inv.lost some).imp_right later.aborted
  · intro failure recorded
    have healthy : ¬ state.WriterHealthy → ¬ next.WriterHealthy :=
      mt (writerStep_healthy step)
    cases step with
    | @fails own stage failing =>
        rcases fail_failure recorded with earlier | rfl
        · exact (inv.source failure earlier).imp_right healthy
        · exact Or.inr (healthy fun alive => alive.1 failure stage failing)
    | _ => exact (inv.source failure recorded).imp_right healthy

/-- **The invariant holds in every reachable state.** -/
theorem shutdown {options : Options} {health : StationHealthMonitor}
    {state : PipelineState options.decoderThreads}
    (reachable : (pipeline options health).Reachable state) : Shutdown state := by
  refine System.invariant ?_ ?_ reachable
  · rintro _ rfl
    exact shutdown_initial options health
  · rintro state next inv (step | ⟨i, step⟩ | step)
    · exact shutdown_main inv step
    · exact shutdown_decoder inv step
    · exact shutdown_writer inv step

end Stgs.Station
