/-
# Station.Hysteresis -- the health monitor as an automaton

The reference is a two-level switch (`Theory.Hysteresis`) over the counts of the last
calls.  It is raised when there are enough samples and the rejection rate or the
critical frames reach their thresholds, and lowered when there are enough and both
are back at the recovery thresholds.

`health_automaton`: along every sequence of calls the monitor's window is the last
calls, its state that of the reference, and it returns a transition exactly when
the state changes, with the window that changed it.

`no_flapping_iff`: the two rules exclude each other on every window a run can reach,
unless the two rejection rates are equal and a window can have just that rate.
-/
import Mathlib.Algebra.Order.Field.Rat
import Mathlib.Data.List.Induction
import Mathlib.Tactic.FieldSimp
import Mathlib.Tactic.Linarith
import Stgs.Station.Health
import Stgs.Theory.Hysteresis

namespace Stgs.Station

open Stgs.Theory.Hysteresis Stgs.Wire

set_option autoImplicit false

/-! ## Calls -/

namespace StationHealthMonitor

def record (self : StationHealthMonitor) :
    HealthUpdate → Option StationStateTransition × StationHealthMonitor
  | .decoded frame => self.recordDecoded frame
  | .rejected => self.recordRejected

/-- The monitor after calls in order. -/
def after (self : StationHealthMonitor) (updates : List HealthUpdate) : StationHealthMonitor :=
  updates.foldl (fun monitor update => (monitor.record update).2) self

/-- The transitions they return. -/
def returned (self : StationHealthMonitor) : List HealthUpdate → List StationStateTransition
  | [] => []
  | update :: rest => (self.record update).1.toList ++ (self.record update).2.returned rest

@[simp] theorem after_nil (self : StationHealthMonitor) : self.after [] = self := rfl

@[simp] theorem after_cons (self : StationHealthMonitor) (update : HealthUpdate)
    (rest : List HealthUpdate) : self.after (update :: rest) = (self.record update).2.after rest :=
  rfl

@[simp] theorem after_concat (self : StationHealthMonitor) (updates : List HealthUpdate)
    (update : HealthUpdate) :
    self.after (updates ++ [update]) = ((self.after updates).record update).2 :=
  List.foldl_concat ..

end StationHealthMonitor

/-! ## The reference -/

def HealthUpdate.isRejected : HealthUpdate → Bool
  | decoded _ => false
  | rejected => true

/-- A decoded frame with status CRITICAL or SAFE_MODE. -/
def HealthUpdate.isCritical : HealthUpdate → Bool
  | decoded frame => decide (frame.status = Status.critical ∨ frame.status = Status.safeMode)
  | rejected => false

structure WindowCounts where
  samples : Nat
  rejected : Nat
  critical : Nat
deriving DecidableEq, Repr

def countsOf (window : List HealthUpdate) : WindowCounts where
  samples := window.length
  rejected := window.countP HealthUpdate.isRejected
  critical := window.countP HealthUpdate.isCritical

/-- The rejection rate, exactly. -/
def WindowCounts.rate (counts : WindowCounts) : ℚ := counts.rejected / counts.samples

section Reference

variable (config : StationHealthConfig)

/-- The calls the window holds, of a history newest first. -/
def windowCalls (past : List HealthUpdate) : List HealthUpdate :=
  if config.enabled then past.take config.windowSize else []

/-- The rule that moves nominal to degraded. -/
def Degrades (counts : WindowCounts) : Prop :=
  config.minSamples ≤ counts.samples ∧
    (config.degradedRejectionRate ≤ counts.rate ∨
      config.criticalFramesForDegraded ≤ counts.critical)

/-- The rule that moves degraded to nominal. -/
def Recovers (counts : WindowCounts) : Prop :=
  config.minSamples ≤ counts.samples ∧
    counts.rate ≤ config.recoveryRejectionRate ∧
      counts.critical ≤ config.criticalFramesForRecovery

instance : DecidablePred (Degrades config) := fun counts =>
  inferInstanceAs (Decidable (config.minSamples ≤ counts.samples ∧ _))

instance : DecidablePred (Recovers config) := fun counts =>
  inferInstanceAs (Decidable (config.minSamples ≤ counts.samples ∧ _))

/-- What the switch sees, newest first: the counts after each call. -/
def observations : List HealthUpdate → List WindowCounts
  | [] => []
  | update :: past => countsOf (windowCalls config (update :: past)) :: observations past

def stateOf : Level → StationState
  | .low => .nominal
  | .high => .degraded

/-- The state of the reference automaton after a history, newest first. -/
def referenceState (past : List HealthUpdate) : StationState :=
  stateOf (levelAfter (Degrades config) (Recovers config) (observations config past))

end Reference

/-! ## What the constructor accepted -/

/-- The constructor's nine checks. -/
structure ConfigChecked (config : StationHealthConfig) : Prop where
  window : 0 < config.windowSize
  samples : 0 < config.minSamples
  fits : config.minSamples ≤ config.windowSize
  degraded : 0 ≤ config.degradedRejectionRate ∧ config.degradedRejectionRate ≤ 1
  recovery : 0 ≤ config.recoveryRejectionRate ∧ config.recoveryRejectionRate ≤ 1
  rates : config.recoveryRejectionRate ≤ config.degradedRejectionRate
  critical : 0 < config.criticalFramesForDegraded
  criticalFits : config.criticalFramesForDegraded ≤ config.windowSize
  counts : config.criticalFramesForRecovery < config.criticalFramesForDegraded

theorem refusal_eq_none_iff (config : StationHealthConfig) :
    config.refusal = none ↔ ConfigChecked config := by
  unfold StationHealthConfig.refusal
  constructor
  · intro accepted
    split at accepted <;> [cases accepted; skip]
    split at accepted <;> [cases accepted; skip]
    split at accepted <;> [cases accepted; skip]
    split at accepted <;> [cases accepted; skip]
    rename_i degraded
    split at accepted <;> [cases accepted; skip]
    rename_i recovery
    split at accepted <;> [cases accepted; skip]
    rename_i rates
    split at accepted <;> [cases accepted; skip]
    split at accepted <;> [cases accepted; skip]
    split at accepted <;> [cases accepted; skip]
    simp only [not_or, not_lt] at degraded recovery rates
    exact ⟨by omega, by omega, by omega, degraded, recovery, rates, by omega, by omega, by omega⟩
  · rintro ⟨window, samples, fits, degraded, recovery, rates, critical, criticalFits, counts⟩
    rw [if_neg (by omega), if_neg (by omega), if_neg (by omega),
      if_neg (not_or.mpr ⟨not_lt.mpr degraded.1, not_lt.mpr degraded.2⟩),
      if_neg (not_or.mpr ⟨not_lt.mpr recovery.1, not_lt.mpr recovery.2⟩), if_neg (not_lt.mpr rates),
      if_neg (by omega), if_neg (by omega), if_neg (by omega)]

theorem create_ok {config : StationHealthConfig} {monitor : StationHealthMonitor}
    (created : StationHealthMonitor.create config = .ok monitor) :
    ConfigChecked config ∧ monitor.config = config ∧ monitor.samples = [] ∧
      monitor.state = .nominal := by
  unfold StationHealthMonitor.create at created
  split at created
  · cases created
  · rename_i accepted
    obtain rfl := Except.ok.inj created
    exact ⟨(refusal_eq_none_iff config).mp accepted, rfl, rfl, rfl⟩

/-! ## One call -/

/-- The window after a push is its newest samples. -/
theorem trimWindow_eq (size : Nat) (samples : List Sample) :
    trimWindow size samples = samples.drop (samples.length - size) := by
  induction samples with
  | nil => simp [trimWindow]
  | cons sample samples ih =>
      rw [trimWindow]
      split
      · rename_i long
        have further : (sample :: samples).length - size = samples.length - size + 1 := by
          rw [List.length_cons] at long ⊢
          omega
        rw [ih, further, List.drop_succ_cons]
      · rename_i fits
        have none : (sample :: samples).length - size = 0 := by omega
        rw [none, List.drop_zero]

/-- The sample of a call. -/
def HealthUpdate.sample (update : HealthUpdate) : Sample :=
  { rejected := update.isRejected, critical := update.isCritical }

theorem record_eq (self : StationHealthMonitor) (update : HealthUpdate) :
    self.record update = self.recordSample update.sample := by
  cases update with
  | decoded frame =>
      have same : isCriticalTelemetry frame = (HealthUpdate.decoded frame).isCritical := by
        simp [isCriticalTelemetry, HealthUpdate.isCritical, beq_eq_decide]
      rw [StationHealthMonitor.record, StationHealthMonitor.recordDecoded, same]
      rfl
  | rejected => rfl

theorem StationHealthMonitor.appended_bounded (self : StationHealthMonitor) (sample : Sample) :
    (trimWindow self.config.windowSize (self.samples ++ [sample])).length ≤
      self.config.windowSize :=
  trimWindow_bounded _ _

/-- The monitor with the sample in its window, before the thresholds. -/
def StationHealthMonitor.push (self : StationHealthMonitor) (sample : Sample) :
    StationHealthMonitor :=
  { self with
    samples := trimWindow self.config.windowSize (self.samples ++ [sample])
    bounded := self.appended_bounded sample }

theorem StationHealthMonitor.push_samples (self : StationHealthMonitor) (sample : Sample) :
    (self.push sample).samples =
      (self.samples ++ [sample]).drop
        ((self.samples ++ [sample]).length - self.config.windowSize) :=
  trimWindow_eq _ _

/-- **What a call can do**: nothing if the monitor is off; push the sample; and move
to the target of the thresholds, telling so, if there are enough samples and the
target is another state. -/
theorem recordSample_cases (self : StationHealthMonitor) (sample : Sample) :
    (self.config.enabled = false ∧ self.recordSample sample = (none, self)) ∨
      (self.config.enabled = true ∧
        ((self.push sample).samples.length < self.config.minSamples ∨
          (self.push sample).targetState (self.push sample).snapshot = self.state) ∧
        self.recordSample sample = (none, self.push sample)) ∨
      (self.config.enabled = true ∧
        self.config.minSamples ≤ (self.push sample).samples.length ∧
        ∃ target, target ≠ self.state ∧
          (self.push sample).targetState (self.push sample).snapshot = target ∧
          self.recordSample sample =
            (some
              { source := self.state
                target
                snapshot := { self.push sample with state := target }.snapshot
                reason := (self.push sample).transitionReason (self.push sample).snapshot target },
              { self.push sample with state := target })) := by
  unfold StationHealthMonitor.recordSample
  by_cases off : self.config.enabled = false
  · exact Or.inl ⟨off, if_pos off⟩
  · have on : self.config.enabled = true := by simpa using off
    rw [if_neg off]
    refine Or.inr ?_
    by_cases few : (self.push sample).samples.length < self.config.minSamples
    · exact Or.inl ⟨on, Or.inl few, if_pos few⟩
    · by_cases same : (self.push sample).targetState (self.push sample).snapshot = self.state
      · exact Or.inl ⟨on, Or.inr same, (if_neg few).trans (if_pos same)⟩
      · exact Or.inr ⟨on, Nat.le_of_not_lt few, _, same, rfl, (if_neg few).trans (if_neg same)⟩

/-! ## The monitor follows the reference -/

/-- The monitor after a history, newest call first. -/
structure Follows (settings : StationHealthConfig) (past : List HealthUpdate)
    (monitor : StationHealthMonitor) : Prop where
  config : monitor.config = settings
  samples : monitor.samples = ((windowCalls settings past).map HealthUpdate.sample).reverse
  state : monitor.state = referenceState settings past

section Follows

variable {config : StationHealthConfig} {past : List HealthUpdate} {monitor : StationHealthMonitor}

/-- The counts of a snapshot are those of the calls in the window. -/
theorem snapshot_counts {calls : List HealthUpdate}
    (samples : monitor.samples = (calls.map HealthUpdate.sample).reverse) :
    monitor.snapshot.samples = (countsOf calls).samples ∧
      monitor.snapshot.rejected = (countsOf calls).rejected ∧
      monitor.snapshot.critical = (countsOf calls).critical := by
  simp only [StationHealthMonitor.snapshot, countsOf, samples, List.length_reverse,
    List.length_map, List.countP_reverse, List.countP_map]
  exact ⟨trivial, rfl, rfl⟩

/-- One more call in the window. -/
theorem windowCalls_push (checked : ConfigChecked config) (on : config.enabled = true)
    (update : HealthUpdate) (follows : Follows config past monitor) :
    (monitor.push update.sample).samples =
      ((windowCalls config (update :: past)).map HealthUpdate.sample).reverse := by
  have positive := checked.window
  obtain ⟨size, size_eq⟩ := Nat.exists_eq_succ_of_ne_zero (Nat.ne_of_gt positive)
  have pushed : ((windowCalls config past).map HealthUpdate.sample).reverse ++ [update.sample] =
      ((update :: past.take config.windowSize).map HealthUpdate.sample).reverse := by
    rw [windowCalls, if_pos on, List.map_cons, List.reverse_cons]
  have kept : (update :: past.take config.windowSize).take config.windowSize =
      (update :: past).take config.windowSize := by
    rw [size_eq, List.take_succ_cons, List.take_succ_cons, List.take_take,
      Nat.min_eq_left (Nat.le_succ size)]
  rw [StationHealthMonitor.push_samples, follows.config, follows.samples, pushed,
    List.length_reverse, ← List.reverse_take, ← List.map_take, kept, windowCalls, if_pos on]

/-- The thresholds are the switch's rules. -/
theorem targetState_eq {self : StationHealthMonitor} {counts : WindowCounts} {level : Level}
    (checked : ConfigChecked config) (same : self.config = config) (state : self.state = stateOf level)
    (samples : self.snapshot.samples = counts.samples)
    (rejected : self.snapshot.rejected = counts.rejected)
    (critical : self.snapshot.critical = counts.critical)
    (enough : config.minSamples ≤ counts.samples) :
    self.targetState self.snapshot =
      stateOf (next (Degrades config) (Recovers config) level counts) := by
  have some : 0 < counts.samples := Nat.lt_of_lt_of_le checked.samples enough
  have rate : self.snapshot.rejectionRate = counts.rate := by
    have length : self.samples.length = counts.samples := samples
    have count : self.samples.countP Sample.rejected = counts.rejected := rejected
    show (if 0 < self.samples.length then _ else _) = _
    rw [length, if_pos some, count, WindowCounts.rate]
  unfold StationHealthMonitor.targetState
  rw [state, same, rate, critical]
  cases level with
  | low =>
      have rule : Degrades config counts ↔ counts.rate ≥ config.degradedRejectionRate ∨
          counts.critical ≥ config.criticalFramesForDegraded := by
        simp [Degrades, enough]
      by_cases degrades : Degrades config counts
      · simp [stateOf, next, degrades, rule.mp degrades]
      · simp [stateOf, next, degrades, mt rule.mpr degrades]
  | high =>
      have rule : Recovers config counts ↔ counts.rate ≤ config.recoveryRejectionRate ∧
          counts.critical ≤ config.criticalFramesForRecovery := by
        simp [Recovers, enough]
      by_cases recovers : Recovers config counts
      · simp [stateOf, next, recovers, rule.mp recovers]
      · simp only [stateOf, next, if_neg recovers, if_neg (mt rule.mpr recovers)]

/-- With too few samples no rule holds. -/
theorem next_of_few {counts : WindowCounts} (few : counts.samples < config.minSamples)
    (level : Level) : next (Degrades config) (Recovers config) level counts = level := by
  have stays : ¬ Degrades config counts := fun rule => absurd rule.1 (Nat.not_le_of_lt few)
  have waits : ¬ Recovers config counts := fun rule => absurd rule.1 (Nat.not_le_of_lt few)
  cases level with
  | low => rw [next, if_neg stays]
  | high => rw [next, if_neg waits]

/-- **One call keeps the monitor on the reference.** -/
theorem Follows.record (checked : ConfigChecked config) (follows : Follows config past monitor)
    (update : HealthUpdate) : Follows config (update :: past) (monitor.record update).2 := by
  have quiet (few : (countsOf (windowCalls config (update :: past))).samples < config.minSamples) :
      referenceState config (update :: past) = referenceState config past := by
    rw [referenceState, observations, levelAfter, next_of_few few]
    rfl
  rw [record_eq]
  rcases recordSample_cases monitor update.sample with
    ⟨off, unchanged⟩ | ⟨on, still, pushed⟩ | ⟨on, enough, state, other, moved, told⟩
  · rw [unchanged]
    rw [follows.config] at off
    have window (calls : List HealthUpdate) : windowCalls config calls = [] := by
      simp [windowCalls, off]
    refine ⟨follows.config, ?_, ?_⟩
    · rw [window, follows.samples, window]
    · rw [quiet (by rw [window]; exact checked.samples), follows.state]
  · rw [pushed]
    rw [follows.config] at on still
    have window := windowCalls_push checked on update follows
    obtain ⟨samples, rejected, critical⟩ := snapshot_counts window
    refine ⟨follows.config, window, ?_⟩
    show monitor.state = _
    by_cases few : (countsOf (windowCalls config (update :: past))).samples < config.minSamples
    · rw [quiet few, follows.state]
    · have same := still.resolve_left fun short => few (samples ▸ short)
      rw [← same]
      exact targetState_eq checked follows.config follows.state samples rejected critical
        (Nat.le_of_not_lt few)
  · rw [told]
    rw [follows.config] at on enough
    have window := windowCalls_push checked on update follows
    obtain ⟨samples, rejected, critical⟩ := snapshot_counts window
    refine ⟨follows.config, window, ?_⟩
    show state = _
    rw [← moved]
    refine targetState_eq checked follows.config follows.state samples rejected critical ?_
    rw [← samples]
    exact enough

/-- **Along every run.** -/
theorem after_follows (checked : ConfigChecked config) (start : Follows config [] monitor)
    (updates : List HealthUpdate) : Follows config updates.reverse (monitor.after updates) := by
  induction updates using List.reverseRecOn with
  | nil => exact start
  | append_singleton updates update ih =>
      rw [StationHealthMonitor.after_concat, List.reverse_concat]
      exact ih.record checked update

theorem create_follows (created : StationHealthMonitor.create config = .ok monitor) :
    ConfigChecked config ∧ Follows config [] monitor := by
  obtain ⟨checked, same, samples, state⟩ := create_ok created
  refine ⟨checked, same, ?_, state⟩
  rw [samples]
  simp [windowCalls]

end Follows

/-! ## What a call returns -/

/-- A call returns a transition if and only if it changes the state; the transition
carries the states before and after and the window after. -/
structure Reports (monitor : StationHealthMonitor) (update : HealthUpdate) : Prop where
  changed : (monitor.record update).1.isSome = true ↔
    (monitor.record update).2.state ≠ monitor.state
  told : ∀ transition, (monitor.record update).1 = some transition →
    transition.source = monitor.state ∧ transition.target = (monitor.record update).2.state ∧
      transition.snapshot = (monitor.record update).2.snapshot

theorem record_reports (self : StationHealthMonitor) (update : HealthUpdate) :
    Reports self update := by
  have effects := recordSample_cases self update.sample
  rw [← record_eq] at effects
  rcases effects with ⟨_, unchanged⟩ | ⟨_, _, pushed⟩ | ⟨_, _, state, other, _, told⟩
  · refine ⟨?_, ?_⟩
    · simp [unchanged]
    · simp [unchanged]
  · refine ⟨?_, ?_⟩
    · rw [pushed]
      exact iff_of_false (by simp) (not_not_intro rfl)
    · simp [pushed]
  · refine ⟨?_, ?_⟩
    · rw [told]
      exact iff_of_true rfl other
    · rw [told]
      rintro transition same
      obtain rfl := Option.some.inj same
      exact ⟨rfl, rfl, rfl⟩

def StationState.other : StationState → StationState
  | nominal => degraded
  | degraded => nominal

theorem StationState.eq_other {state next : StationState} (changed : next ≠ state) :
    next = state.other := by
  cases state with
  | nominal => cases next with
      | nominal => exact absurd rfl changed
      | degraded => rfl
  | degraded => cases next with
      | nominal => rfl
      | degraded => exact absurd rfl changed

/-- Each transition starts where the one before ended, and goes to the other state. -/
def Alternates : StationState → List StationStateTransition → Prop
  | _, [] => True
  | state, transition :: rest =>
      transition.source = state ∧ transition.target = state.other ∧ Alternates state.other rest

theorem returned_alternates (self : StationHealthMonitor) (updates : List HealthUpdate) :
    Alternates self.state (self.returned updates) := by
  induction updates generalizing self with
  | nil => trivial
  | cons update rest ih =>
      have reports := record_reports self update
      have tail := ih (self.record update).2
      rw [StationHealthMonitor.returned]
      cases told : (self.record update).1 with
      | none =>
          have same : (self.record update).2.state = self.state := by
            by_contra changed
            have some := reports.changed.mpr changed
            simp [told] at some
          rw [same] at tail
          exact tail
      | some transition =>
          have changed := reports.changed.mp (by rw [told]; rfl)
          obtain ⟨source, target, _⟩ := reports.told transition told
          have moved := StationState.eq_other changed
          rw [moved] at tail target
          exact ⟨source, target, tail⟩

/-! ## The automaton -/

/-- What the snapshot says after a sequence of calls. -/
structure Tracks (config : StationHealthConfig) (updates : List HealthUpdate)
    (monitor : StationHealthMonitor) : Prop where
  samples : config.enabled = true →
    monitor.snapshot.samples = min updates.length config.windowSize
  rejected : config.enabled = true → monitor.snapshot.rejected =
    (updates.reverse.take config.windowSize).countP HealthUpdate.isRejected
  critical : config.enabled = true → monitor.snapshot.critical =
    (updates.reverse.take config.windowSize).countP HealthUpdate.isCritical
  disjoint : monitor.snapshot.rejected + monitor.snapshot.critical ≤ monitor.snapshot.samples
  bounded : monitor.snapshot.samples ≤ config.windowSize
  state : monitor.snapshot.state = referenceState config updates.reverse
  disabled : config.enabled = false →
    monitor.snapshot.state = .nominal ∧ monitor.snapshot.samples = 0

theorem countsOf_disjoint (window : List HealthUpdate) :
    (countsOf window).rejected + (countsOf window).critical ≤ (countsOf window).samples := by
  induction window with
  | nil => exact Nat.le_refl _
  | cons update window ih =>
      simp only [countsOf, List.countP_cons, List.length_cons] at ih ⊢
      have once : (if update.isRejected = true then 1 else 0) +
          (if update.isCritical = true then 1 else 0) ≤ 1 := by
        cases update with
        | decoded frame =>
            simp only [HealthUpdate.isRejected, Bool.false_eq_true, if_false, Nat.zero_add]
            split <;> omega
        | rejected => simp [HealthUpdate.isRejected, HealthUpdate.isCritical]
      omega

/-- A monitor that is off sees nothing. -/
theorem referenceState_disabled {config : StationHealthConfig} (checked : ConfigChecked config)
    (off : config.enabled = false) (past : List HealthUpdate) :
    referenceState config past = .nominal := by
  have quiet : levelAfter (Degrades config) (Recovers config) (observations config past) = .low := by
    refine levelAfter_low fun counts member => ?_
    have empty : counts.samples = 0 := by
      induction past with
      | nil => cases member
      | cons update past ih =>
          rcases List.mem_cons.mp member with rfl | earlier
          · simp [windowCalls, off, countsOf]
          · exact ih earlier
    intro degrades
    have some := checked.samples
    have enough := degrades.1
    omega
  rw [referenceState, quiet, stateOf]

theorem Follows.tracks {config : StationHealthConfig} {updates : List HealthUpdate}
    {monitor : StationHealthMonitor} (checked : ConfigChecked config)
    (follows : Follows config updates.reverse monitor) : Tracks config updates monitor := by
  obtain ⟨samples, rejected, critical⟩ := snapshot_counts follows.samples
  have window (on : config.enabled = true) :
      windowCalls config updates.reverse = updates.reverse.take config.windowSize := by
    rw [windowCalls, if_pos on]
  have within : (windowCalls config updates.reverse).length ≤ config.windowSize := by
    unfold windowCalls
    split
    · exact List.length_take_le _ _
    · exact Nat.zero_le _
  constructor
  · intro on
    rw [samples, countsOf, window on, List.length_take, List.length_reverse, Nat.min_comm]
  · intro on
    rw [rejected, countsOf, window on]
  · intro on
    rw [critical, countsOf, window on]
  · rw [samples, rejected, critical]
    exact countsOf_disjoint _
  · rw [samples]
    exact within
  · exact follows.state
  · intro off
    refine ⟨follows.state.trans (referenceState_disabled checked off _), ?_⟩
    rw [samples, countsOf, windowCalls, if_neg (by simp [off])]
    rfl

/-- **The monitor implements the automaton.**  After any calls on a monitor the
constructor made, the counts are those of exactly the last calls, the state is the
reference's, every call returns a transition exactly when it changes the state, with
the states and the window that changed it, and the returned transitions alternate
from nominal; a monitor that is off stays nominal and empty. -/
theorem health_automaton {config : StationHealthConfig} {monitor : StationHealthMonitor}
    (created : StationHealthMonitor.create config = .ok monitor) (updates : List HealthUpdate) :
    Tracks config updates (monitor.after updates) ∧
      (∀ update, Reports (monitor.after updates) update) ∧
      Alternates .nominal (monitor.returned updates) := by
  obtain ⟨checked, start⟩ := create_follows created
  refine ⟨(after_follows checked start updates).tracks checked,
    fun update => record_reports _ update, ?_⟩
  have first : monitor.state = .nominal := start.state
  rw [← first]
  exact returned_alternates monitor updates

/-- What the constructor returns. -/
theorem create_accepted {config : StationHealthConfig} (accepted : config.refusal = none) :
    StationHealthMonitor.create config =
      .ok ⟨config, [], .nominal, accepted, Nat.zero_le _⟩ := by
  unfold StationHealthMonitor.create
  split
  · rename_i refused
    rw [accepted] at refused
    cases refused
  · rfl

/-- The default thresholds, after a rejection. -/
theorem health_automaton_rejection :
    Tracks {} [.rejected]
      (StationHealthMonitor.after ⟨{}, [], .nominal, refusal_default, Nat.zero_le _⟩ [.rejected]) :=
  (health_automaton (create_accepted refusal_default) [.rejected]).1

/-! ## Flapping -/

/-- The counts of a monitor's window. -/
def StationHealthMonitor.counts (self : StationHealthMonitor) : WindowCounts where
  samples := self.snapshot.samples
  rejected := self.snapshot.rejected
  critical := self.snapshot.critical

theorem Follows.counts_eq {config : StationHealthConfig} {past : List HealthUpdate}
    {monitor : StationHealthMonitor} (follows : Follows config past monitor) :
    monitor.counts = countsOf (windowCalls config past) := by
  obtain ⟨samples, rejected, critical⟩ := snapshot_counts follows.samples
  rw [StationHealthMonitor.counts, samples, rejected, critical]

/-- No window of a run satisfies both rules, and two calls in a row that leave the
counts as they are do not both return a transition. -/
structure Steady (config : StationHealthConfig) (monitor : StationHealthMonitor) : Prop where
  apart : ∀ updates, ¬ (Degrades config (monitor.after updates).counts ∧
    Recovers config (monitor.after updates).counts)
  once : ∀ updates first second,
    (monitor.after (updates ++ [first])).counts = (monitor.after updates).counts →
    (monitor.after (updates ++ [first, second])).counts =
      (monitor.after (updates ++ [first])).counts →
    ¬ (((monitor.after updates).record first).1.isSome = true ∧
      ((monitor.after (updates ++ [first])).record second).1.isSome = true)

/-- The monitor is on, its two rejection rates are one, and a window with enough
samples can have just that rate. -/
def CanFlap (config : StationHealthConfig) : Prop :=
  config.enabled = true ∧ config.recoveryRejectionRate = config.degradedRejectionRate ∧
    ∃ samples rejected : Nat, config.minSamples ≤ samples ∧ samples ≤ config.windowSize ∧
      rejected ≤ samples ∧ (rejected : ℚ) / samples = config.degradedRejectionRate

/-- A window that satisfies both rules has the common rate. -/
theorem canFlap_of_both {config : StationHealthConfig} (checked : ConfigChecked config)
    {past : List HealthUpdate} (degrades : Degrades config (countsOf (windowCalls config past)))
    (recovers : Recovers config (countsOf (windowCalls config past))) : CanFlap config := by
  have few := checked.counts
  have rate := degrades.2.resolve_right fun critical => by
    have calm := recovers.2.2
    omega
  have enough := degrades.1
  have rates := checked.rates
  have below := recovers.2.1
  have equal : (countsOf (windowCalls config past)).rate = config.degradedRejectionRate := by
    linarith
  cases on : config.enabled with
  | false =>
      have some := checked.samples
      have none : (countsOf (windowCalls config past)).samples = 0 := by
        simp [windowCalls, on, countsOf]
      omega
  | true =>
      refine ⟨on, by linarith, (countsOf (windowCalls config past)).samples,
        (countsOf (windowCalls config past)).rejected, enough, ?_, ?_, equal⟩
      · rw [windowCalls, if_pos on, countsOf]
        exact List.length_take_le _ _
      · exact List.countP_le_length

/-- Rejections and then frames that are not critical. -/
def mixedCalls (rejected accepted : Nat) : List HealthUpdate :=
  List.replicate rejected .rejected ++ List.replicate accepted (.decoded {})

theorem countsOf_mixedCalls (rejected accepted : Nat) :
    countsOf (mixedCalls rejected accepted).reverse = ⟨rejected + accepted, rejected, 0⟩ := by
  have plain : (HealthUpdate.decoded {}).isCritical = false := by decide
  have calm : HealthUpdate.rejected.isCritical = false := rfl
  have good : (HealthUpdate.decoded {}).isRejected = false := rfl
  have bad : HealthUpdate.rejected.isRejected = true := rfl
  rw [countsOf, WindowCounts.mk.injEq]
  refine ⟨?_, ?_, ?_⟩
  · rw [List.length_reverse, mixedCalls, List.length_append, List.length_replicate,
      List.length_replicate]
  · rw [List.countP_reverse, mixedCalls, List.countP_append, List.countP_replicate,
      List.countP_replicate, if_pos bad, if_neg (by simp [good]), Nat.add_zero]
  · rw [List.countP_reverse, mixedCalls, List.countP_append, List.countP_replicate,
      List.countP_replicate, if_neg (by simp [calm]), if_neg (by simp [plain])]

/-- Such a window is reached, and satisfies both rules. -/
theorem both_of_canFlap {config : StationHealthConfig} {monitor : StationHealthMonitor}
    (checked : ConfigChecked config) (start : Follows config [] monitor) (flaps : CanFlap config) :
    ∃ updates, Degrades config (monitor.after updates).counts ∧
      Recovers config (monitor.after updates).counts := by
  obtain ⟨on, equal, samples, rejected, enough, fits, part, rate⟩ := flaps
  refine ⟨mixedCalls rejected (samples - rejected), ?_⟩
  have all : rejected + (samples - rejected) = samples := by omega
  have window : windowCalls config (mixedCalls rejected (samples - rejected)).reverse =
      (mixedCalls rejected (samples - rejected)).reverse := by
    rw [windowCalls, if_pos on, List.take_of_length_le]
    rw [List.length_reverse, mixedCalls, List.length_append, List.length_replicate,
      List.length_replicate, all]
    exact fits
  have counts : (monitor.after (mixedCalls rejected (samples - rejected))).counts =
      ⟨samples, rejected, 0⟩ := by
    rw [(after_follows checked start _).counts_eq, window, countsOf_mixedCalls, all]
  rw [counts]
  refine ⟨⟨enough, Or.inl ?_⟩, enough, ?_, Nat.zero_le _⟩
  · exact rate.ge
  · exact rate.le.trans equal.ge

/-- If the rules exclude each other on the window after a call, a second call that
leaves it so changes nothing. -/
theorem steady_call {config : StationHealthConfig} {past : List HealthUpdate}
    {monitor : StationHealthMonitor} (checked : ConfigChecked config)
    (follows : Follows config past monitor) (first second : HealthUpdate)
    (apart : ¬ (Degrades config (monitor.record first).2.counts ∧
      Recovers config (monitor.record first).2.counts))
    (same : ((monitor.record first).2.record second).2.counts = (monitor.record first).2.counts) :
    ((monitor.record first).2.record second).1.isSome = false := by
  have once := follows.record checked first
  have twice := once.record checked second
  have state : ((monitor.record first).2.record second).2.state = (monitor.record first).2.state := by
    rw [twice.state, once.state, referenceState, referenceState, observations, levelAfter,
      ← twice.counts_eq, same]
    rw [observations, levelAfter, ← once.counts_eq]
    exact congrArg stateOf (next_next_iff.mpr apart _)
  by_contra told
  have reports := record_reports (monitor.record first).2 second
  exact reports.changed.mp (Bool.not_eq_false _ ▸ told) state

/-- **When the monitor flaps.**  The constructor asks for a strict order of the two
critical thresholds and not of the two rates, so a run is steady exactly if the
rates differ, or no window can have the common rate. -/
theorem steady_iff {config : StationHealthConfig} {monitor : StationHealthMonitor}
    (created : StationHealthMonitor.create config = .ok monitor) :
    Steady config monitor ↔ ¬ CanFlap config := by
  obtain ⟨checked, start⟩ := create_follows created
  constructor
  · intro steady flaps
    obtain ⟨updates, both⟩ := both_of_canFlap checked start flaps
    exact steady.apart updates both
  · intro calm
    have apart (updates : List HealthUpdate) :
        ¬ (Degrades config (monitor.after updates).counts ∧
          Recovers config (monitor.after updates).counts) := by
      rw [(after_follows checked start updates).counts_eq]
      exact fun both => calm (canFlap_of_both checked both.1 both.2)
    refine ⟨apart, fun updates first second _ same => ?_⟩
    have after_two : monitor.after (updates ++ [first, second]) =
        ((monitor.after (updates ++ [first])).record second).2 := by
      rw [← StationHealthMonitor.after_concat, List.append_assoc]
      rfl
    rw [after_two] at same
    have separate := apart (updates ++ [first])
    rw [StationHealthMonitor.after_concat] at same separate ⊢
    have quiet := steady_call checked (after_follows checked start updates) first second separate same
    simp [quiet]

/-- The default thresholds are steady. -/
theorem steady_default :
    Steady {} ⟨{}, [], .nominal, refusal_default, Nat.zero_le _⟩ := by
  refine (steady_iff (create_accepted refusal_default)).mpr ?_
  rintro ⟨_, equal, _⟩
  exact absurd equal (by decide +kernel)

/-- A window of one sample, and both rates one. -/
def touchingConfig : StationHealthConfig where
  windowSize := 1
  minSamples := 1
  degradedRejectionRate := 1
  recoveryRejectionRate := 1
  criticalFramesForDegraded := 1
  criticalFramesForRecovery := 0

theorem touchingConfig_accepted : touchingConfig.refusal = none := by decide +kernel

/-- **Every rejection is a transition**: the window is always one rejection, its rate
reaches the degradation threshold and does not exceed the recovery threshold. -/
theorem not_steady : ¬ ∀ (config : StationHealthConfig) (monitor : StationHealthMonitor),
    StationHealthMonitor.create config = .ok monitor → Steady config monitor := by
  intro steady
  have once := (steady _ _ (create_accepted touchingConfig_accepted)).once [.rejected] .rejected
    .rejected (by decide +kernel) (by decide +kernel)
  exact once (by decide +kernel)

end Stgs.Station
