/-
# Station.Observation -- the counters while the pipeline runs

`stats()` and `progressLoop` load the counters one after the other: `received_`,
`decoded_`, `rejected_`, `written_`.  Between two loads the other threads go on, and
`received_` is incremented after the push it counts.  Here an observer takes its loads
among the steps of the pipeline, again and again.

The observer's last fields are history of the observation: whether the writer counted
more than `received_` had left to count (`ahead`), and whether it counted and wrote one
frame behind the load of `decoded_` (`lapped`).  The values are consistent exactly when
neither happened (`stats_consistent_iff`).
-/
import Stgs.Station.Reorder

namespace Stgs.Station

open Stgs.Theory.Transition Stgs.Wire

set_option autoImplicit false

structure PipelineStats where
  received : Nat := 0
  decoded : Nat := 0
  rejected : Nat := 0
  written : Nat := 0
  applicationErrors : Nat := 0
deriving DecidableEq

/-- What the claims of a snapshot are. -/
structure PipelineStats.Consistent (stats : PipelineStats) : Prop where
  written : stats.written ≤ stats.decoded
  handled : stats.decoded + stats.rejected ≤ stats.received

/-- The counter that is loaded next. -/
inductive ObserverPc where
  | received
  | decoded
  | rejected
  | written
  | applicationErrors
  | observed
deriving DecidableEq

/-- An observation.  `spare` is how many results the writer may count before it is ahead
of the loaded `received_`; `since` is whether it counted a frame behind the load of
`decoded_`. -/
structure Observer where
  next : ObserverPc := .received
  stats : PipelineStats := {}
  spare : Nat := 0
  ahead : Prop := False
  since : Prop := False
  lapped : Prop := False

/-- The four counters are loaded; `stats()` loads one more. -/
def Observer.Loaded (observer : Observer) : Prop :=
  observer.next = .applicationErrors ∨ observer.next = .observed

section Steps

variable {decoders : Nat}

inductive LoadStep (state : PipelineState decoders) (observer : Observer) : Observer → Prop where
  | received (here : observer.next = .received) :
      LoadStep state observer
        { next := .decoded
          stats := { received := state.received }
          spare := state.received - (state.work.decoded + state.work.rejected)
          ahead := state.received < state.work.decoded + state.work.rejected }
  | decoded (here : observer.next = .decoded) :
      LoadStep state observer
        { observer with
          next := .rejected
          stats := { observer.stats with decoded := state.work.decoded } }
  | rejected (here : observer.next = .rejected) :
      LoadStep state observer
        { observer with
          next := .written
          stats := { observer.stats with rejected := state.work.rejected } }
  | written (here : observer.next = .written) :
      LoadStep state observer
        { observer with
          next := .applicationErrors
          stats := { observer.stats with written := state.work.written } }
  | applicationErrors (here : observer.next = .applicationErrors) :
      LoadStep state observer
        { observer with
          next := .observed
          stats := { observer.stats with applicationErrors := state.applicationErrors } }
  | again (loaded : observer.Loaded) : LoadStep state observer {}

/-- The writer counts a result in a counter that is still to be loaded. -/
def Observer.Counts (observer : Observer) (before after : WriterState) : Prop :=
  (observer.next = .decoded ∧
      (before.decoded < after.decoded ∨ before.rejected < after.rejected)) ∨
    (observer.next = .rejected ∧ before.rejected < after.rejected)

instance (observer : Observer) (before after : WriterState) :
    Decidable (observer.Counts before after) := inferInstanceAs (Decidable (_ ∨ _))

/-- Between the loads of `decoded_` and `written_`. -/
def Observer.Between (observer : Observer) : Prop :=
  observer.next = .rejected ∨ observer.next = .written

/-- The history after a step of the pipeline. -/
def Observer.watch (observer : Observer) (before after : WriterState) : Observer :=
  { observer with
    spare := if observer.Counts before after then observer.spare - 1 else observer.spare
    ahead := observer.ahead ∨ (observer.Counts before after ∧ observer.spare = 0)
    since := observer.since ∨ (observer.Between ∧ before.decoded < after.decoded)
    lapped := observer.lapped ∨
      (observer.Between ∧ before.written < after.written ∧ observer.since) }

structure ObservedState (decoders : Nat) where
  pipeline : PipelineState decoders
  observer : Observer := {}

/-- The writer gets ahead, or laps, in this step. -/
def Tears (state next : ObservedState decoders) : Prop :=
  (¬ state.observer.ahead ∧ next.observer.ahead) ∨ (¬ state.observer.lapped ∧ next.observer.lapped)

end Steps

/-- **The pipeline with an observer.** -/
def observation (options : Options) (health : StationHealthMonitor) :
    System (ObservedState options.decoderThreads) where
  start state := state = { pipeline := .initial options health }
  step state next :=
    ((pipeline options health).step state.pipeline next.pipeline ∧
      next.observer = state.observer.watch state.pipeline.work next.pipeline.work) ∨
    (next.pipeline = state.pipeline ∧ LoadStep state.pipeline state.observer next.observer)

/-! ## The counters of the writer -/

section Counters

variable {decoders : Nat} {options : Options}

/-- How far `written_` is behind `decoded_`, by the place of the writer. -/
def WriterPc.Lag (decoded written : Nat) : WriterPc → Prop
  | recording item =>
      match item.result with
      | .ok _ => decoded = written + 1
      | .error _ => decoded = written
  | processing _ _ | writing _ _ | tallying _ _ => decoded = written + 1
  | failing _ _ | failed => written ≤ decoded ∧ decoded ≤ written + 1
  | _ => decoded = written

def PipelineState.Tally (state : PipelineState decoders) : Prop :=
  state.writer.Lag state.work.decoded state.work.written

theorem WriterPc.Lag.bounds {decoded written : Nat} {pc : WriterPc} (lag : pc.Lag decoded written) :
    written ≤ decoded ∧ decoded ≤ written + 1 := by
  unfold WriterPc.Lag at lag
  split at lag
  · split at lag <;> omega
  all_goals omega

/-- What a step does to the counters. -/
structure Counted (decoded rejected written : Nat) (before after : WriterState) : Prop where
  decoded : after.decoded = before.decoded + decoded
  rejected : after.rejected = before.rejected + rejected
  written : after.written = before.written + written

theorem counted_none {before after : WriterState} (same : after = before) :
    Counted 0 0 0 before after := by
  subst same
  exact ⟨rfl, rfl, rfl⟩

/-- A step counts one thing at most; a frame is counted when all before it are written,
and written when it alone is not. -/
inductive Counting (before after : WriterState) : Prop where
  | nothing (counted : Counted 0 0 0 before after)
  | decoded (counted : Counted 1 0 0 before after) (settled : before.decoded = before.written)
  | rejected (counted : Counted 0 1 0 before after)
  | written (counted : Counted 0 0 1 before after) (behind : before.decoded = before.written + 1)

theorem Counting.moves {before after : WriterState} (counting : Counting before after) :
    (before.decoded + before.rejected ≤ after.decoded + after.rejected ∧
      after.decoded + after.rejected ≤ before.decoded + before.rejected + 1) ∧
    before.decoded ≤ after.decoded ∧ before.rejected ≤ after.rejected := by
  cases counting with
  | nothing counted => have := counted.decoded; have := counted.rejected; omega
  | decoded counted settled => have := counted.decoded; have := counted.rejected; omega
  | rejected counted => have := counted.decoded; have := counted.rejected; omega
  | written counted behind => have := counted.decoded; have := counted.rejected; omega

/-- The calls on one result, one by one. -/
theorem handles_counting {before after : WriterPc} {work next : WriterState}
    {updates later : List HealthUpdate}
    (handles : Handles options before work updates after next later)
    (lag : before.Lag work.decoded work.written) :
    after.Lag next.decoded next.written ∧ Counting work next := by
  cases handles with
  | countsDecoded result =>
      refine ⟨?_, .decoded ⟨rfl, rfl, rfl⟩ lag⟩
      simp only [WriterPc.Lag, result]
      exact congrArg (· + 1) lag
  | countsRejected result =>
      refine ⟨?_, .rejected ⟨rfl, rfl, rfl⟩⟩
      simp only [WriterPc.Lag, result]
      exact lag
  | recordsDecoded result =>
      simp only [WriterPc.Lag, result] at lag
      exact ⟨lag, .nothing ⟨rfl, rfl, rfl⟩⟩
  | recordsRejected result =>
      simp only [WriterPc.Lag, result] at lag
      exact ⟨lag, .nothing ⟨rfl, rfl, rfl⟩⟩
  | processes processed =>
      have effect := processApplicationPayload_effect processed
      refine ⟨?_, .nothing ⟨effect.decoded, effect.rejected, effect.written⟩⟩
      show next.decoded = next.written + 1
      rw [effect.decoded, effect.written]
      exact lag
  | writes => exact ⟨lag, .nothing ⟨rfl, rfl, rfl⟩⟩
  | tallies => exact ⟨lag, .written ⟨rfl, rfl, rfl⟩ lag⟩
  | logsDecoded result =>
      unfold logDecoded
      split
      · exact ⟨lag, .nothing ⟨rfl, rfl, rfl⟩⟩
      · exact ⟨lag, .nothing ⟨rfl, rfl, rfl⟩⟩
  | logsRejected result => exact ⟨lag, .nothing ⟨rfl, rfl, rfl⟩⟩

theorem writerStep_counting {state next : PipelineState decoders} (tally : state.Tally)
    (step : WriterStep options state next) : next.Tally ∧ Counting state.work next.work := by
  have bounds := tally.bounds
  unfold PipelineState.Tally at tally ⊢
  cases step with
  | handles handling => exact handles_counting handling tally
  | pops popping popped =>
      rw [popping] at tally
      exact ⟨tally, .nothing (counted_none rfl)⟩
  | drains popping popped =>
      rw [popping] at tally
      exact ⟨tally, .nothing (counted_none rfl)⟩
  | inserts inserting fresh =>
      rw [inserting] at tally
      exact ⟨tally, .nothing (counted_none rfl)⟩
  | finds finding present next =>
      rw [finding] at tally
      exact ⟨tally, .nothing (counted_none rfl)⟩
  | waits finding missing =>
      rw [finding] at tally
      exact ⟨tally, .nothing (counted_none rfl)⟩
  | erases erasing =>
      rw [erasing] at tally
      exact ⟨tally, .nothing (counted_none rfl)⟩
  | checks checking empty =>
      rw [checking] at tally
      exact ⟨tally, .nothing (counted_none rfl)⟩
  | stores storing =>
      rw [storing] at tally
      exact ⟨tally, .nothing (counted_none rfl)⟩
  | finishes finishing =>
      rw [finishing] at tally
      exact ⟨tally, .nothing (counted_none rfl)⟩
  | duplicates inserting present same => exact ⟨bounds, .nothing (counted_none rfl)⟩
  | gap checking left => exact ⟨bounds, .nothing (counted_none rfl)⟩
  | throwsPayload processing processed => exact ⟨bounds, .nothing (counted_none rfl)⟩
  | throws exn may => exact ⟨bounds, .nothing (counted_none rfl)⟩
  | @fails failure stage failing => cases stage <;> exact ⟨bounds, .nothing (counted_none rfl)⟩

theorem SameWriter.counting {state next : PipelineState decoders} (same : SameWriter state next)
    (tally : state.Tally) : next.Tally ∧ Counting state.work next.work := by
  refine ⟨?_, .nothing (counted_none same.work)⟩
  rw [PipelineState.Tally, same.writer, same.work]
  exact tally

/-- **What a step of the pipeline does to the counters.** -/
theorem step_counting {health : StationHealthMonitor}
    {state next : PipelineState options.decoderThreads} (tally : state.Tally)
    (step : (pipeline options health).step state next) :
    next.Tally ∧ Counting state.work next.work := by
  rcases step with step | ⟨i, step⟩ | step
  · exact (mainStep_sameWriter step).counting tally
  · exact (decoderStep_sameWriter step).counting tally
  · exact writerStep_counting tally step

end Counters

/-! ## What the history says of the values -/

namespace Observer

/-- `counted` results count in the counters still to be loaded, or have been loaded. -/
structure Ledger (observer : Observer) (counted : Nat) : Prop where
  within : ¬ observer.ahead → counted + observer.spare = observer.stats.received
  beyond : observer.ahead → observer.stats.received < counted

/-- Behind the load of `decoded_`. -/
structure Laps (observer : Observer) (work : WriterState) : Prop where
  none : ¬ observer.since → work.decoded = observer.stats.decoded
  one : observer.since → ¬ observer.lapped →
    work.decoded = observer.stats.decoded + 1 ∧ work.written = observer.stats.decoded
  more : observer.lapped → observer.since ∧ observer.stats.decoded < work.written

/-- What the history says at each load. -/
def Sound (observer : Observer) (work : WriterState) : Prop :=
  match observer.next with
  | .received => True
  | .decoded => observer.Ledger (work.decoded + work.rejected) ∧ ¬ observer.since ∧ ¬ observer.lapped
  | .rejected => observer.Ledger (observer.stats.decoded + work.rejected) ∧ observer.Laps work
  | .written =>
      observer.Ledger (observer.stats.decoded + observer.stats.rejected) ∧ observer.Laps work
  | .applicationErrors | .observed =>
      (observer.stats.decoded + observer.stats.rejected ≤ observer.stats.received ↔
        ¬ observer.ahead) ∧
      (observer.stats.written ≤ observer.stats.decoded ↔ ¬ observer.lapped)

theorem Ledger.law {observer : Observer} {counted : Nat} (ledger : observer.Ledger counted) :
    counted ≤ observer.stats.received ↔ ¬ observer.ahead := by
  constructor
  · intro fits ahead
    exact absurd (ledger.beyond ahead) (Nat.not_lt.mpr fits)
  · intro within
    have := ledger.within within
    omega

theorem Laps.law {observer : Observer} {work : WriterState} (laps : observer.Laps work)
    (bounds : work.written ≤ work.decoded) :
    work.written ≤ observer.stats.decoded ↔ ¬ observer.lapped := by
  constructor
  · intro fits lapped
    exact absurd (laps.more lapped).2 (Nat.not_lt.mpr fits)
  · intro clean
    by_cases since : observer.since
    · exact Nat.le_of_eq (laps.one since clean).2
    · exact bounds.trans (Nat.le_of_eq (laps.none since))

/-- A load. -/
theorem Sound.load {decoders : Nat} {state : PipelineState decoders} {observer next : Observer}
    (tally : state.Tally) (sound : observer.Sound state.work)
    (step : LoadStep state observer next) : next.Sound state.work := by
  have bounds := tally.bounds.1
  cases step with
  | received here =>
      refine ⟨⟨fun within => ?_, fun ahead => ahead⟩, id, id⟩
      have fits := Nat.not_lt.mp within
      show _ + (state.received - _) = state.received
      omega
  | decoded here =>
      rw [Sound, here] at sound
      obtain ⟨ledger, since, lapped⟩ := sound
      exact ⟨⟨ledger.within, ledger.beyond⟩, fun _ => rfl, fun yes => absurd yes since,
        fun yes => absurd yes lapped⟩
  | rejected here =>
      rw [Sound, here] at sound
      obtain ⟨ledger, laps⟩ := sound
      exact ⟨⟨ledger.within, ledger.beyond⟩, laps.none, laps.one, laps.more⟩
  | written here =>
      rw [Sound, here] at sound
      obtain ⟨ledger, laps⟩ := sound
      exact ⟨ledger.law, laps.law bounds⟩
  | applicationErrors here =>
      rw [Sound, here] at sound
      exact sound
  | again loaded => trivial

/-- A count in a counter that is still to be loaded, or in none. -/
theorem Ledger.watch {observer : Observer} {before after : WriterState} {counted next : Nat}
    (ledger : observer.Ledger counted)
    (counts : (observer.Counts before after ∧ next = counted + 1) ∨
      (¬ observer.Counts before after ∧ next = counted)) :
    (observer.watch before after).Ledger next := by
  rcases counts with ⟨counts, rfl⟩ | ⟨silent, rfl⟩
  · refine ⟨fun within => ?_, fun ahead => ?_⟩
    · simp only [Observer.watch, not_or, counts, true_and] at within
      have before := ledger.within within.1
      simp only [Observer.watch, if_pos counts]
      omega
    · rcases ahead with ahead | ⟨_, spent⟩
      · exact Nat.lt_succ_of_lt (ledger.beyond ahead)
      · by_cases already : observer.ahead
        · exact Nat.lt_succ_of_lt (ledger.beyond already)
        · have before := ledger.within already
          show observer.stats.received < counted + 1
          omega
  · refine ⟨fun within => ?_, fun ahead => ?_⟩
    · simp only [Observer.watch, if_neg silent]
      exact ledger.within fun ahead => within (Or.inl ahead)
    · exact ledger.beyond (ahead.resolve_right fun counts => silent counts.1)

theorem watch_since {observer : Observer} (between : observer.Between) (before after : WriterState) :
    (observer.watch before after).since ↔ observer.since ∨ before.decoded < after.decoded := by
  simp [Observer.watch, between]

theorem watch_lapped {observer : Observer} (between : observer.Between)
    (before after : WriterState) : (observer.watch before after).lapped ↔
      observer.lapped ∨ (before.written < after.written ∧ observer.since) := by
  simp [Observer.watch, between]

/-- The writer goes on behind the load of `decoded_`. -/
theorem Laps.watch {observer : Observer} {before after : WriterState} (between : observer.Between)
    (laps : observer.Laps before) (counting : Counting before after) :
    (observer.watch before after).Laps after := by
  have since := watch_since between before after
  have lapped := watch_lapped between before after
  have quiet (decoded : after.decoded = before.decoded) (written : after.written = before.written) :
      (observer.watch before after).Laps after := by
    rw [decoded, or_iff_left (Nat.lt_irrefl _)] at since
    rw [written, or_iff_left (fun more => Nat.lt_irrefl _ more.1)] at lapped
    refine ⟨fun none => ?_, fun one clean => ?_, fun more => ?_⟩
    · rw [decoded]
      exact laps.none fun yes => none (since.mpr yes)
    · rw [decoded, written]
      exact laps.one (since.mp one) fun yes => clean (lapped.mpr yes)
    · rw [written, since]
      exact laps.more (lapped.mp more)
  cases counting with
  | nothing counted => exact quiet counted.decoded counted.written
  | rejected counted => exact quiet counted.decoded counted.written
  | decoded counted settled =>
      have decoded := counted.decoded
      have written := counted.written
      refine ⟨fun none => absurd (since.mpr (Or.inr (by omega))) none, fun _ clean => ?_,
        fun more => ⟨since.mpr (Or.inr (by omega)), ?_⟩⟩
      · -- a frame counted before would not be written yet
        by_cases already : observer.since
        · have one := laps.one already fun yes => clean (lapped.mpr (Or.inl yes))
          omega
        · have none := laps.none already
          show after.decoded = observer.stats.decoded + 1 ∧ after.written = observer.stats.decoded
          omega
      · have more := (laps.more ((lapped.mp more).resolve_right fun yes => by omega)).2
        show observer.stats.decoded < after.written
        omega
  | written counted behind =>
      have decoded := counted.decoded
      have written := counted.written
      refine ⟨fun none => ?_, fun one clean => ?_, fun more => ?_⟩
      · rw [decoded]
        exact laps.none fun yes => none (since.mpr (Or.inl yes))
      · have already := (since.mp one).resolve_right (by omega)
        exact absurd (lapped.mpr (Or.inr ⟨by omega, already⟩)) clean
      · have already : observer.since := by
          rcases lapped.mp more with before | ⟨_, yes⟩
          · exact (laps.more before).1
          · exact yes
        refine ⟨since.mpr (Or.inl already), ?_⟩
        show observer.stats.decoded < after.written
        by_cases before : observer.lapped
        · have := (laps.more before).2
          omega
        · have := (laps.one already before).2
          omega

/-- The ledger, by what the step counted. -/
theorem Ledger.step {observer : Observer} {before after : WriterState} {counted next : Nat}
    (ledger : observer.Ledger counted) (moved : counted ≤ next ∧ next ≤ counted + 1)
    (counts : observer.Counts before after ↔ counted < next) :
    (observer.watch before after).Ledger next := by
  by_cases more : counted < next
  · exact ledger.watch (Or.inl ⟨counts.mpr more, by omega⟩)
  · exact ledger.watch (Or.inr ⟨fun yes => more (counts.mp yes), by omega⟩)

/-- A step of the pipeline. -/
theorem Sound.watch {observer : Observer} {before after : WriterState}
    (sound : observer.Sound before) (counting : Counting before after) :
    (observer.watch before after).Sound after := by
  obtain ⟨⟨least, most⟩, decoded, rejected⟩ := counting.moves
  have stage : (observer.watch before after).next = observer.next := rfl
  have values : (observer.watch before after).stats = observer.stats := rfl
  rw [Sound] at sound
  rw [Sound, stage, values]
  cases next : observer.next with
  | received => trivial
  | decoded =>
      rw [next] at sound
      obtain ⟨ledger, since, lapped⟩ := sound
      refine ⟨ledger.step ⟨least, most⟩ ?_, ?_, ?_⟩
      · simp only [Observer.Counts, next, true_and, reduceCtorEq, false_and, or_false]
        omega
      · simp [Observer.watch, Observer.Between, next, since]
      · simp [Observer.watch, Observer.Between, next, lapped]
  | rejected =>
      rw [next] at sound
      obtain ⟨ledger, laps⟩ := sound
      refine ⟨ledger.step (by omega) ?_, laps.watch (Or.inl next) counting⟩
      simp only [Observer.Counts, next, true_and, reduceCtorEq, false_and, false_or]
      omega
  | written =>
      rw [next] at sound
      obtain ⟨ledger, laps⟩ := sound
      refine ⟨ledger.step (by omega) ?_, laps.watch (Or.inr next) counting⟩
      simp only [Observer.Counts, next, reduceCtorEq, false_and, or_self]
      exact iff_of_false id (Nat.lt_irrefl _)
  | applicationErrors =>
      rw [next] at sound
      simpa [Observer.watch, Observer.Counts, Observer.Between, next] using sound
  | observed =>
      rw [next] at sound
      simpa [Observer.watch, Observer.Counts, Observer.Between, next] using sound

end Observer

/-! ## Every run -/

section Runs

variable {options : Options} {health : StationHealthMonitor}

/-- What holds of every observed run. -/
structure ObservedState.Holds (state : ObservedState options.decoderThreads) : Prop where
  tally : state.pipeline.Tally
  sound : state.observer.Sound state.pipeline.work

theorem observed_holds {state : ObservedState options.decoderThreads}
    (reachable : (observation options health).Reachable state) : state.Holds := by
  refine System.invariant ?_ ?_ reachable
  · rintro _ rfl
    exact ⟨rfl, trivial⟩
  · rintro state next ⟨tally, sound⟩ (⟨step, watched⟩ | ⟨same, load⟩)
    · obtain ⟨after, counting⟩ := step_counting tally step
      refine ⟨after, ?_⟩
      rw [watched]
      exact sound.watch counting
    · refine ⟨?_, ?_⟩
      · rwa [same]
      · rw [same]
        exact sound.load tally load

/-- Loaded values are consistent when the writer neither got ahead nor lapped. -/
theorem Observer.Sound.consistent {observer : Observer} {work : WriterState}
    (sound : observer.Sound work) (loaded : observer.Loaded) :
    observer.stats.Consistent ↔ ¬ observer.ahead ∧ ¬ observer.lapped := by
  have laws : (observer.stats.decoded + observer.stats.rejected ≤ observer.stats.received ↔
        ¬ observer.ahead) ∧
      (observer.stats.written ≤ observer.stats.decoded ↔ ¬ observer.lapped) := by
    rcases loaded with here | here
    · rwa [Sound, here] at sound
    · rwa [Sound, here] at sound
  constructor
  · intro consistent
    exact ⟨laws.1.mp consistent.handled, laws.2.mp consistent.written⟩
  · rintro ⟨within, clean⟩
    exact ⟨laws.2.mpr clean, laws.1.mpr within⟩

/-- A run in which no step tears an observation. -/
theorem untorn {state : ObservedState options.decoderThreads}
    (reachable : ((observation options health).restrict fun state next =>
      ¬ Tears state next).Reachable state) : ¬ state.observer.ahead ∧ ¬ state.observer.lapped := by
  refine @System.invariant _ _
    (fun state => ¬ state.observer.ahead ∧ ¬ state.observer.lapped) ?_ ?_ _ reachable
  · rintro _ rfl
    exact ⟨id, id⟩
  · rintro state next ⟨within, clean⟩ ⟨_, whole⟩
    exact ⟨fun ahead => whole (Or.inl ⟨within, ahead⟩),
      fun lapped => whole (Or.inr ⟨clean, lapped⟩)⟩

end Runs

section Runs

variable {options : Options} {health : StationHealthMonitor}
  {allowed : ObservedState options.decoderThreads → ObservedState options.decoderThreads → Prop}
  {state next : PipelineState options.decoderThreads} {observer loaded : Observer}
  (run : ((observation options health).restrict allowed).Reachable ⟨state, observer⟩)

include run

theorem observed_step (step : (pipeline options health).step state next)
    (fine : allowed ⟨state, observer⟩ ⟨next, observer.watch state.work next.work⟩) :
    ((observation options health).restrict allowed).Reachable
      ⟨next, observer.watch state.work next.work⟩ :=
  run.step ⟨Or.inl ⟨step, rfl⟩, fine⟩

theorem observed_load (load : LoadStep state observer loaded)
    (fine : allowed ⟨state, observer⟩ ⟨state, loaded⟩) :
    ((observation options health).restrict allowed).Reachable ⟨state, loaded⟩ :=
  run.step ⟨Or.inr ⟨rfl, load⟩, fine⟩

end Runs

end Stgs.Station
