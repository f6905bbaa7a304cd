/-
# Station.Health -- the station's health monitor

A sliding window of samples, one for each frame decoded or rejected, and a state
with hysteresis: one pair of thresholds on the rejection rate, one on the number
of critical frames.

A monitor carries the constructor's acceptance of its configuration and the bound
on its window.  Rates are exact; the text of a transition is left to its data.
-/
import Mathlib
import Stgs.Wire.FrameCodec

namespace Stgs.Station

open Stgs.Wire

set_option autoImplicit false

inductive StationState where
  | nominal
  | degraded
deriving DecidableEq, Repr

structure StationHealthConfig where
  enabled : Bool := true
  windowSize : Nat := 100
  minSamples : Nat := 20
  degradedRejectionRate : ℚ := 1 / 10
  recoveryRejectionRate : ℚ := 3 / 100
  criticalFramesForDegraded : Nat := 8
  criticalFramesForRecovery : Nat := 3
deriving DecidableEq, Repr

/-- The message of the constructor's first failing check. -/
def StationHealthConfig.refusal (config : StationHealthConfig) : Option String :=
  if config.windowSize = 0 then
    some "station health window size must be greater than zero"
  else if config.minSamples = 0 then
    some "station health minimum sample count must be greater than zero"
  else if config.minSamples > config.windowSize then
    some "station health minimum sample count cannot exceed window size"
  else if config.degradedRejectionRate < 0 ∨ config.degradedRejectionRate > 1 then
    some "degraded rejection rate must be between 0 and 1"
  else if config.recoveryRejectionRate < 0 ∨ config.recoveryRejectionRate > 1 then
    some "recovery rejection rate must be between 0 and 1"
  else if config.recoveryRejectionRate > config.degradedRejectionRate then
    some "recovery rejection rate cannot exceed degraded rejection rate"
  else if config.criticalFramesForDegraded = 0 then
    some "critical frame degradation threshold must be greater than zero"
  else if config.criticalFramesForDegraded > config.windowSize then
    some "critical frame degradation threshold cannot exceed window size"
  else if config.criticalFramesForRecovery ≥ config.criticalFramesForDegraded then
    some "critical frame recovery threshold must be lower than degradation threshold"
  else none

/-- The defaults pass the constructor's checks. -/
theorem refusal_default : StationHealthConfig.refusal {} = none := by decide +kernel

structure Sample where
  rejected : Bool := false
  critical : Bool := false
deriving DecidableEq, Repr

structure StationHealthSnapshot where
  state : StationState := .nominal
  samples : Nat := 0
  rejected : Nat := 0
  critical : Nat := 0
  rejectionRate : ℚ := 0
deriving DecidableEq, Repr

/-- What the text of a transition's reason is made of. -/
inductive TransitionReason where
  | rejectionRate (rate threshold : ℚ)
  | criticalCount (count threshold : Nat)
  | recovered (rate rateThreshold : ℚ) (count countThreshold : Nat)
deriving DecidableEq, Repr

/-- `StationStateTransition`. -/
structure StationStateTransition where
  source : StationState := .nominal
  target : StationState := .nominal
  snapshot : StationHealthSnapshot
  reason : TransitionReason
deriving DecidableEq, Repr

structure StationHealthMonitor where
  config : StationHealthConfig
  samples : List Sample
  state : StationState
  accepted : config.refusal = none
  bounded : samples.length ≤ config.windowSize
deriving DecidableEq

/-- What a health update was about. -/
inductive HealthUpdate where
  | decoded (frame : TelemetryFrame)
  | rejected
deriving DecidableEq

def isCriticalTelemetry (frame : TelemetryFrame) : Bool :=
  frame.status == Status.critical || frame.status == Status.safeMode

/-- `pop_front` until the window is not exceeded. -/
def trimWindow (windowSize : Nat) : List Sample → List Sample
  | [] => []
  | sample :: samples =>
      if (sample :: samples).length > windowSize then trimWindow windowSize samples
      else sample :: samples

theorem trimWindow_bounded (windowSize : Nat) (samples : List Sample) :
    (trimWindow windowSize samples).length ≤ windowSize := by
  induction samples with
  | nil => exact Nat.zero_le _
  | cons sample samples ih =>
      rw [trimWindow]
      split
      · exact ih
      · rename_i fits
        exact Nat.le_of_not_lt fits

namespace StationHealthMonitor

/-- The constructor. -/
def create (config : StationHealthConfig) : Except Exn StationHealthMonitor :=
  match refused : config.refusal with
  | some what => .error (.invalidArgument what)
  | none => .ok ⟨config, [], .nominal, refused, Nat.zero_le _⟩

/-- `makeSnapshotLocked`. -/
def snapshot (self : StationHealthMonitor) : StationHealthSnapshot :=
  let rejected := self.samples.countP Sample.rejected
  { state := self.state
    samples := self.samples.length
    rejected
    critical := self.samples.countP Sample.critical
    rejectionRate := if 0 < self.samples.length then rejected / self.samples.length else 0 }

/-- `transitionReasonLocked`. -/
def transitionReason (self : StationHealthMonitor) (snapshot : StationHealthSnapshot)
    (target : StationState) : TransitionReason :=
  match target with
  | .degraded =>
      if snapshot.rejectionRate ≥ self.config.degradedRejectionRate then
        .rejectionRate snapshot.rejectionRate self.config.degradedRejectionRate
      else .criticalCount snapshot.critical self.config.criticalFramesForDegraded
  | .nominal =>
      .recovered snapshot.rejectionRate self.config.recoveryRejectionRate snapshot.critical
        self.config.criticalFramesForRecovery

/-- The state the thresholds lead to. -/
def targetState (self : StationHealthMonitor) (snapshot : StationHealthSnapshot) : StationState :=
  match self.state with
  | .nominal =>
      if snapshot.rejectionRate ≥ self.config.degradedRejectionRate ∨
          snapshot.critical ≥ self.config.criticalFramesForDegraded then .degraded
      else .nominal
  | .degraded =>
      if snapshot.rejectionRate ≤ self.config.recoveryRejectionRate ∧
          snapshot.critical ≤ self.config.criticalFramesForRecovery then .nominal
      else .degraded

def recordSample (self : StationHealthMonitor) (sample : Sample) :
    Option StationStateTransition × StationHealthMonitor :=
  if self.config.enabled = false then (none, self)
  else
    let self : StationHealthMonitor :=
      { self with
        samples := trimWindow self.config.windowSize (self.samples ++ [sample])
        bounded := trimWindow_bounded _ _ }
    let snapshot := self.snapshot
    if snapshot.samples < self.config.minSamples then (none, self)
    else
      let target := self.targetState snapshot
      if target = self.state then (none, self)
      else
        (some
          { source := self.state
            target
            snapshot := { snapshot with state := target }
            reason := self.transitionReason snapshot target },
          { self with state := target })

def recordDecoded (self : StationHealthMonitor) (frame : TelemetryFrame) :
    Option StationStateTransition × StationHealthMonitor :=
  self.recordSample { rejected := false, critical := isCriticalTelemetry frame }

def recordRejected (self : StationHealthMonitor) :
    Option StationStateTransition × StationHealthMonitor :=
  self.recordSample { rejected := true, critical := false }

end StationHealthMonitor

end Stgs.Station
