/-
# Station.DwellTime -- how fast the health monitor can change its mind

One call changes the counts of the window by one, and its rejection rate by a share of the
samples that a decision needs.  The thresholds of degradation and of recovery are apart; so
between two transitions there are at least `dwell` calls, and `health_dwell` bounds how many
transitions a run of calls can have.  The other way round a window of equal calls decides the
state, whatever was before (`state_of_kind`).
-/
import Stgs.Station.Hysteresis
import Stgs.Theory.Spacing

namespace Stgs.Station

open Stgs.Theory.Hysteresis Stgs.Theory.Spacing Stgs.Wire

set_option autoImplicit false

/-! ## One call changes the window a little -/

/-- A call enters the window, and another leaves it if it is full. -/
theorem countP_window (p : HealthUpdate → Bool) (size : Nat) (update : HealthUpdate)
    (past : List HealthUpdate) : ∃ entering leaving, entering ≤ 1 ∧ leaving ≤ 1 ∧
      (past.length ≤ size → leaving = 0) ∧
        ((update :: past).take (size + 1)).countP p + leaving =
          (past.take (size + 1)).countP p + entering := by
  refine ⟨if p update then 1 else 0, past[size]?.toList.countP p, ?_, ?_, fun short => ?_, ?_⟩
  · split <;> omega
  · exact List.countP_le_length.trans Option.length_toList_le
  · rw [List.getElem?_eq_none short]
    rfl
  · rw [List.take_succ_cons, List.countP_cons, List.take_add_one, List.countP_append]
    omega

section Window

variable {config : StationHealthConfig}

theorem samples_window (on : config.enabled = true) (past : List HealthUpdate) :
    (countsOf (windowCalls config past)).samples = min config.windowSize past.length := by
  rw [windowCalls, if_pos on]
  exact List.length_take

/-- One more sample. -/
theorem abs_share_sub_le {samples rejected entering : Nat} (some : 0 < samples)
    (part : rejected ≤ samples) (enters : entering ≤ 1) :
    |((rejected + entering : Nat) : ℚ) / (samples + 1 : Nat) - rejected / samples| ≤
      1 / samples := by
  have positive : (0 : ℚ) < samples := Nat.cast_pos.mpr some
  have share : ((rejected + entering : Nat) : ℚ) / (samples + 1 : Nat) - rejected / samples =
      (entering * samples - rejected) / (samples * (samples + 1)) := by
    push_cast
    field_simp
    ring
  have below : (rejected : ℚ) ≤ samples := Nat.cast_le.mpr part
  have enters' : (entering : ℚ) ≤ 1 := by exact_mod_cast enters
  have nonneg : (0 : ℚ) ≤ entering := Nat.cast_nonneg _
  have rejects : (0 : ℚ) ≤ rejected := Nat.cast_nonneg _
  have difference : |(entering * samples - rejected : ℚ)| ≤ samples := by
    rw [abs_le]
    constructor <;> nlinarith
  have denominator : (0 : ℚ) < samples * (samples + 1) := by positivity
  rw [share, abs_div, abs_of_pos denominator, div_le_div_iff₀ denominator positive, one_mul]
  calc |(entering * samples - rejected : ℚ)| * samples ≤ samples * samples :=
        mul_le_mul_of_nonneg_right difference positive.le
    _ ≤ samples * (samples + 1) := mul_le_mul_of_nonneg_left (by linarith) positive.le

/-- **One call moves the rejection rate by a share of the samples.** -/
theorem rate_step (checked : ConfigChecked config) (on : config.enabled = true)
    (update : HealthUpdate) {past : List HealthUpdate}
    (enough : config.minSamples ≤ (countsOf (windowCalls config past)).samples) :
    |(countsOf (windowCalls config (update :: past))).rate -
      (countsOf (windowCalls config past)).rate| ≤ 1 / config.minSamples := by
  obtain ⟨size, size_eq⟩ := Nat.exists_eq_succ_of_ne_zero checked.window.ne'
  rw [Nat.succ_eq_add_one] at size_eq
  obtain ⟨entering, leaving, enters, leaves, short, counted⟩ :=
    countP_window HealthUpdate.isRejected size update past
  have least : (0 : ℚ) < config.minSamples := Nat.cast_pos.mpr checked.samples
  have before := samples_window on past
  have after := samples_window on (update :: past)
  have part : (countsOf (windowCalls config past)).rejected ≤
      (countsOf (windowCalls config past)).samples := List.countP_le_length
  have rejections : (countsOf (windowCalls config (update :: past))).rejected + leaving =
      (countsOf (windowCalls config past)).rejected + entering := by
    simp only [windowCalls, if_pos on, countsOf, size_eq]
    exact counted
  rw [List.length_cons] at after
  generalize countsOf (windowCalls config (update :: past)) = next at *
  generalize countsOf (windowCalls config past) = counts at *
  have bound : (1 : ℚ) / counts.samples ≤ 1 / config.minSamples :=
    one_div_le_one_div_of_le least (Nat.cast_le.mpr enough)
  refine le_trans ?_ bound
  rw [WindowCounts.rate, WindowCounts.rate]
  have some : 0 < counts.samples := Nat.lt_of_lt_of_le checked.samples enough
  rcases Nat.lt_or_ge past.length config.windowSize with filling | full
  · have grown : next.samples = counts.samples + 1 := by omega
    have nobody := short (by omega)
    have rejected : next.rejected = counts.rejected + entering := by omega
    rw [grown, rejected]
    exact abs_share_sub_le some part enters
  · have same : next.samples = counts.samples := by omega
    have positive : (0 : ℚ) < counts.samples := Nat.cast_pos.mpr some
    have counted' : (next.rejected : ℚ) + leaving = counts.rejected + entering := by
      exact_mod_cast rejections
    have enters' : (entering : ℚ) ≤ 1 := by exact_mod_cast enters
    have leaves' : (leaving : ℚ) ≤ 1 := by exact_mod_cast leaves
    have difference : |(next.rejected - counts.rejected : ℚ)| ≤ 1 := by
      have nonneg : (0 : ℚ) ≤ entering := Nat.cast_nonneg _
      have nonneg' : (0 : ℚ) ≤ leaving := Nat.cast_nonneg _
      rw [abs_le]
      constructor <;> linarith
    rw [same, ← sub_div, abs_div, abs_of_pos positive]
    exact div_le_div_of_nonneg_right difference positive.le

theorem critical_step (checked : ConfigChecked config) (on : config.enabled = true)
    (update : HealthUpdate) (past : List HealthUpdate) :
    (countsOf (windowCalls config (update :: past))).critical ≤
        (countsOf (windowCalls config past)).critical + 1 ∧
      (countsOf (windowCalls config past)).critical ≤
        (countsOf (windowCalls config (update :: past))).critical + 1 := by
  obtain ⟨size, size_eq⟩ := Nat.exists_eq_succ_of_ne_zero checked.window.ne'
  obtain ⟨entering, leaving, enters, leaves, -, counted⟩ :=
    countP_window HealthUpdate.isCritical size update past
  simp only [windowCalls, if_pos on, countsOf, size_eq, Nat.succ_eq_add_one]
  omega

/-- Many calls move the rate by as many shares. -/
theorem rate_steps (checked : ConfigChecked config) (on : config.enabled = true)
    {past : List HealthUpdate}
    (enough : config.minSamples ≤ (countsOf (windowCalls config past)).samples)
    (calls : List HealthUpdate) :
    |(countsOf (windowCalls config (calls ++ past))).rate -
      (countsOf (windowCalls config past)).rate| ≤ calls.length / config.minSamples := by
  induction calls with
  | nil => simp
  | cons update calls ih =>
      have still : config.minSamples ≤ (countsOf (windowCalls config (calls ++ past))).samples := by
        rw [samples_window on] at enough ⊢
        rw [List.length_append]
        omega
      have step := rate_step checked on update still
      have sum : ((update :: calls).length : ℚ) / config.minSamples =
          1 / config.minSamples + calls.length / config.minSamples := by
        rw [List.length_cons]
        push_cast
        ring
      rw [List.cons_append, sum]
      exact (abs_sub_le _ _ _).trans (add_le_add step ih)

theorem critical_steps (checked : ConfigChecked config) (on : config.enabled = true)
    (past calls : List HealthUpdate) :
    (countsOf (windowCalls config (calls ++ past))).critical ≤
        (countsOf (windowCalls config past)).critical + calls.length ∧
      (countsOf (windowCalls config past)).critical ≤
        (countsOf (windowCalls config (calls ++ past))).critical + calls.length := by
  induction calls with
  | nil => exact ⟨Nat.le_refl _, Nat.le_refl _⟩
  | cons update calls ih =>
      have step := critical_step checked on update (calls ++ past)
      rw [List.cons_append, List.length_cons]
      omega

/-! ## The thresholds are apart -/

/-- The least number of calls from one transition to the next. -/
def dwell (config : StationHealthConfig) : Nat :=
  min (config.criticalFramesForDegraded - config.criticalFramesForRecovery)
    ⌈(config.degradedRejectionRate - config.recoveryRejectionRate) * config.minSamples⌉₊

/-- A window with enough samples is of a monitor that is on. -/
theorem enabled_of_enough (checked : ConfigChecked config) {past : List HealthUpdate}
    (enough : config.minSamples ≤ (countsOf (windowCalls config past)).samples) :
    config.enabled = true := by
  by_contra off
  have none : (countsOf (windowCalls config past)).samples = 0 := by
    simp [windowCalls, off, countsOf]
  have some := checked.samples
  omega

/-- Two windows with distant counts are distant. -/
theorem dwell_le (checked : ConfigChecked config) {past calls : List HealthUpdate}
    (enough : config.minSamples ≤ (countsOf (windowCalls config past)).samples)
    (apart : config.degradedRejectionRate - config.recoveryRejectionRate ≤
        |(countsOf (windowCalls config (calls ++ past))).rate -
          (countsOf (windowCalls config past)).rate| ∨
      config.criticalFramesForDegraded - config.criticalFramesForRecovery ≤ calls.length) :
    dwell config ≤ calls.length := by
  rcases apart with rates | critical
  · refine (min_le_right _ _).trans (Nat.ceil_le.mpr ?_)
    have least : (0 : ℚ) < config.minSamples := Nat.cast_pos.mpr checked.samples
    have moved := rates.trans (rate_steps checked (enabled_of_enough checked enough) enough calls)
    rwa [le_div_iff₀ least] at moved
  · exact (min_le_left _ _).trans critical

/-- **From degradation to recovery.** -/
theorem dwell_recovers (checked : ConfigChecked config) {past calls : List HealthUpdate}
    (degrades : Degrades config (countsOf (windowCalls config past)))
    (recovers : Recovers config (countsOf (windowCalls config (calls ++ past)))) :
    dwell config ≤ calls.length := by
  refine dwell_le checked degrades.1 (degrades.2.imp (fun rate => ?_) fun critical => ?_)
  · rw [abs_sub_comm]
    refine le_trans ?_ (le_abs_self _)
    have low := recovers.2.1
    linarith
  · have calm := recovers.2.2
    have steps := critical_steps checked (enabled_of_enough checked degrades.1) past calls
    omega

/-- **From recovery to degradation.** -/
theorem dwell_degrades (checked : ConfigChecked config) {past calls : List HealthUpdate}
    (recovers : Recovers config (countsOf (windowCalls config past)))
    (degrades : Degrades config (countsOf (windowCalls config (calls ++ past)))) :
    dwell config ≤ calls.length := by
  refine dwell_le checked recovers.1 (degrades.2.imp (fun rate => ?_) fun critical => ?_)
  · refine le_trans ?_ (le_abs_self _)
    have low := recovers.2.1
    linarith
  · have calm := recovers.2.2
    have steps := critical_steps checked (enabled_of_enough checked recovers.1) past calls
    omega

end Window

/-! ## Transitions -/

/-- Which calls return a transition. -/
def StationHealthMonitor.fired (self : StationHealthMonitor) : List HealthUpdate → List Bool
  | [] => []
  | update :: rest => (self.record update).1.isSome :: (self.record update).2.fired rest

theorem length_returned (self : StationHealthMonitor) (updates : List HealthUpdate) :
    (self.returned updates).length = (self.fired updates).count true := by
  induction updates generalizing self with
  | nil => rfl
  | cons update rest ih =>
      rw [StationHealthMonitor.returned, StationHealthMonitor.fired, List.length_append, ih]
      cases (self.record update).1 with
      | none =>
          rw [List.count_cons_of_ne (by decide)]
          exact Nat.zero_add _
      | some transition =>
          rw [Option.isSome_some, List.count_cons_self]
          exact Nat.add_comm _ _

@[simp] theorem length_fired (self : StationHealthMonitor) (updates : List HealthUpdate) :
    (self.fired updates).length = updates.length := by
  induction updates generalizing self with
  | nil => rfl
  | cons update rest ih => rw [StationHealthMonitor.fired, List.length_cons, List.length_cons, ih]

/-- A part of the run is the run of a part. -/
theorem fired_split {self : StationHealthMonitor} {updates : List HealthUpdate}
    {front back : List Bool} (split : self.fired updates = front ++ back) :
    ∃ first rest, updates = first ++ rest ∧ first.length = front.length ∧
      self.fired first = front ∧ (self.after first).fired rest = back := by
  induction front generalizing self updates with
  | nil => exact ⟨[], updates, rfl, rfl, rfl, split⟩
  | cons moment front ih =>
      cases updates with
      | nil => cases split
      | cons update updates =>
          rw [StationHealthMonitor.fired, List.cons_append] at split
          obtain ⟨same, later⟩ := List.cons.inj split
          obtain ⟨first, rest, rfl, length, fired, after⟩ := ih later
          refine ⟨update :: first, rest, rfl, ?_, ?_, after⟩
          · rw [List.length_cons, List.length_cons, length]
          · rw [StationHealthMonitor.fired, same, fired]

/-- Calls that return nothing leave the state. -/
theorem fired_quiet {self : StationHealthMonitor} {updates : List HealthUpdate} {quiet : Nat}
    (silent : self.fired updates = List.replicate quiet false) :
    (self.after updates).state = self.state := by
  induction updates generalizing self quiet with
  | nil => rfl
  | cons update rest ih =>
      cases quiet with
      | zero => cases silent
      | succ quiet =>
          rw [StationHealthMonitor.fired, List.replicate_succ] at silent
          obtain ⟨none, later⟩ := List.cons.inj silent
          rw [StationHealthMonitor.after_cons, ih later]
          by_contra changed
          rw [(record_reports self update).changed.mpr changed] at none
          cases none

section Transitions

variable {config : StationHealthConfig} {past : List HealthUpdate} {monitor : StationHealthMonitor}

theorem stateOf_injective {level other : Level} (same : stateOf level = stateOf other) :
    level = other := by
  cases level <;> cases other <;> first | rfl | cases same

/-- The rule that leaves a level. -/
def Crosses (config : StationHealthConfig) : Level → WindowCounts → Prop
  | .low => Degrades config
  | .high => Recovers config

/-- **When a call returns a transition**: the rule that leaves the state holds. -/
theorem fires_iff (checked : ConfigChecked config) (follows : Follows config past monitor)
    (update : HealthUpdate) {level : Level} (state : monitor.state = stateOf level) :
    (monitor.record update).1.isSome = true ↔
      Crosses config level (countsOf (windowCalls config (update :: past))) := by
  have own := follows.state
  rw [state, referenceState] at own
  have same := stateOf_injective own
  have after := (follows.record checked update).state
  rw [referenceState, observations, levelAfter, ← same] at after
  rw [(record_reports monitor update).changed, after, state]
  have injective : stateOf (next (Degrades config) (Recovers config) level
      (countsOf (windowCalls config (update :: past)))) ≠ stateOf level ↔
      next (Degrades config) (Recovers config) level
        (countsOf (windowCalls config (update :: past))) ≠ level :=
    not_congr ⟨stateOf_injective, congrArg stateOf⟩
  rw [injective]
  cases level with
  | low => exact next_low_ne
  | high => exact next_high_ne

/-- **Successive transitions are `dwell` calls apart.** -/
theorem fired_spaced (checked : ConfigChecked config) (start : Follows config [] monitor)
    (updates : List HealthUpdate) : Spaced (dwell config) (monitor.fired updates) := by
  intro before quiet later split
  obtain ⟨earlier, rest, rfl, -, -, split⟩ := fired_split split
  cases rest with
  | nil => cases split
  | cons first rest =>
  rw [StationHealthMonitor.fired] at split
  obtain ⟨firstFires, split⟩ := List.cons.inj split
  obtain ⟨between, rest, rfl, length, silent, split⟩ := fired_split split
  cases rest with
  | nil => cases split
  | cons second rest =>
  rw [StationHealthMonitor.fired] at split
  obtain ⟨secondFires, -⟩ := List.cons.inj split
  -- the monitor before, behind the first transition, and before the second
  have follows := after_follows checked start earlier
  have behind := follows.record checked first
  have quietly := after_follows checked start (earlier ++ first :: between)
  have unchanged := fired_quiet silent
  have reached : monitor.after (earlier ++ first :: between) =
      ((monitor.after earlier).record first).2.after between := by
    rw [StationHealthMonitor.after, List.foldl_append]
    rfl
  have calls : (earlier ++ first :: between).reverse =
      between.reverse ++ first :: earlier.reverse := by simp
  rw [reached, calls] at quietly
  have gap : (second :: between.reverse).length = quiet + 1 := by
    rw [List.length_cons, List.length_reverse, length, List.length_replicate]
  rw [← gap]
  obtain ⟨level, state⟩ : ∃ level, (monitor.after earlier).state = stateOf level :=
    ⟨_, follows.state⟩
  have crossed := (fires_iff checked follows first state).mp firstFires
  have changed := (record_reports _ first).changed.mp firstFires
  cases level with
  | low =>
      have degraded : ((monitor.after earlier).record first).2.state = stateOf .high := by
        rw [StationState.eq_other changed, state]
        rfl
      exact dwell_recovers checked crossed
        ((fires_iff checked quietly second (unchanged.trans degraded)).mp secondFires)
  | high =>
      have nominal : ((monitor.after earlier).record first).2.state = stateOf .low := by
        rw [StationState.eq_other changed, state]
        rfl
      exact dwell_degrades checked crossed
        ((fires_iff checked quietly second (unchanged.trans nominal)).mp secondFires)

/-! ## A window of equal calls -/

/-- The rules decide alone where one holds and the other does not. -/
theorem state_decided (follows : Follows config past monitor)
    {update : HealthUpdate} {older : List HealthUpdate} (newest : past = update :: older)
    {level : Level} (towards : Crosses config level.flip (countsOf (windowCalls config past)))
    (stays : ¬ Crosses config level (countsOf (windowCalls config past))) :
    monitor.state = stateOf level := by
  subst newest
  rw [follows.state, referenceState, observations, levelAfter]
  congr 1
  generalize levelAfter (Degrades config) (Recovers config) (observations config older) = before
  cases level with
  | low => cases before with
      | low => exact if_neg stays
      | high => exact if_pos towards
  | high => cases before with
      | low => exact if_pos towards
      | high => exact if_neg stays

/-- A full window of calls of one kind. -/
theorem take_kind {calls : List HealthUpdate} {size : Nat} (many : size ≤ calls.length)
    (p : HealthUpdate → Bool) {value : Bool} (same : ∀ call ∈ calls, p call = value) :
    ((calls ++ past).take size).countP p = if value then size else 0 := by
  have window : (calls ++ past).take size = calls.take size := List.take_append_of_le_length many
  have length : (calls.take size).length = size := List.length_take_of_le many
  rw [window]
  cases value with
  | true =>
      have all : (calls.take size).countP p = (calls.take size).length :=
        List.countP_eq_length.mpr fun call member => same call (List.mem_of_mem_take member)
      rw [if_pos rfl, all, length]
  | false =>
      rw [if_neg (by decide), List.countP_eq_zero]
      intro call member counted
      rw [same call (List.mem_of_mem_take member)] at counted
      cases counted

theorem counts_kind (on : config.enabled = true) {calls : List HealthUpdate}
    (many : config.windowSize ≤ calls.length) {rejected : Bool}
    (same : ∀ call ∈ calls, call.isRejected = rejected)
    (calm : ∀ call ∈ calls, call.isCritical = false) :
    countsOf (windowCalls config (calls ++ past)) =
      ⟨config.windowSize, if rejected then config.windowSize else 0, 0⟩ := by
  have length : ((calls ++ past).take config.windowSize).length = config.windowSize := by
    rw [List.length_take, List.length_append]
    omega
  rw [windowCalls, if_pos on, countsOf, length, take_kind many _ same, take_kind many _ calm]
  rfl

/-- **Equal calls that fill the window decide the state.** -/
theorem state_of_kind (checked : ConfigChecked config) (on : config.enabled = true)
    (start : Follows config [] monitor) {calls : List HealthUpdate}
    (many : config.windowSize ≤ calls.length) {rejected : Bool}
    (same : ∀ call ∈ calls, call.isRejected = rejected)
    (calm : ∀ call ∈ calls, call.isCritical = false) {level : Level}
    (towards : Crosses config level.flip
      ⟨config.windowSize, if rejected then config.windowSize else 0, 0⟩)
    (stays : ¬ Crosses config level
      ⟨config.windowSize, if rejected then config.windowSize else 0, 0⟩)
    (updates : List HealthUpdate) : (monitor.after (updates ++ calls)).state = stateOf level := by
  have follows := after_follows checked start (updates ++ calls)
  rw [List.reverse_append] at follows
  have counts := @counts_kind config updates.reverse on calls.reverse (by simpa using many)
    rejected (by simpa using same) (by simpa using calm)
  have some : calls.reverse ≠ [] := by
    intro empty
    have none : calls.length = 0 := by rw [← List.length_reverse, empty, List.length_nil]
    have window := checked.window
    omega
  obtain ⟨update, older, newest⟩ := List.exists_cons_of_ne_nil some
  rw [← counts] at towards stays
  exact state_decided follows (by rw [newest, List.cons_append]) towards stays

end Transitions

/-- **How fast the monitor is, and how slow.** -/
structure Dwells (config : StationHealthConfig) (monitor : StationHealthMonitor) : Prop where
  /-- Successive transitions are `dwell` calls apart, so only so many fit. -/
  spaced : ∀ updates, Spaced (dwell config) (monitor.fired updates)
  few : ∀ updates, ((monitor.returned updates).length - 1) * dwell config ≤ updates.length
  /-- A window of rejections degrades, unless recovery allows a rate of one. -/
  degrades : config.enabled = true → config.recoveryRejectionRate < 1 →
    ∀ updates bad, (∀ call ∈ bad, call.isRejected = true) → config.windowSize ≤ bad.length →
      (monitor.after (updates ++ bad)).state = .degraded
  /-- A window of good frames recovers, unless a rate of zero degrades. -/
  recovers : config.enabled = true → 0 < config.degradedRejectionRate →
    ∀ updates good, (∀ call ∈ good, call.isRejected = false ∧ call.isCritical = false) →
      config.windowSize ≤ good.length → (monitor.after (updates ++ good)).state = .nominal

end Stgs.Station
