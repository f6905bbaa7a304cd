/-
# Station.SignalProcessing -- the filters of a signal block and its metrics

A centred moving average, the projection on the block's nominal frequency, and
the metrics that compare a block with its filtered version.  Sums, quotients,
sines and roots are exact: rational for the average, real for the others.
`static_cast<float>` of a result is `Binary32.ofExact`.

Every function checks its input again and throws what the source throws.  On a
checked block only one of these checks is not idle: the metrics want the filtered
samples finite.  `movingAverageFilter_finite` says that an average is;
`sineProjectionFilter_checked` says when a projection is, in terms of the samples
(`kernelMean`); `computeSignalMetrics_checked` that nothing else can fail.
-/
import Mathlib
import Stgs.Station.Options
import Stgs.Theory.Projection

namespace Stgs.Station

open Stgs.Theory.Projection Stgs.Wire

set_option autoImplicit false

universe u

/-! ## Checks -/

def validateFiniteSamples (samples : List Binary32) : Except Exn Unit :=
  if samples.any (fun sample => !sample.isFinite) then
    .error (.invalidArgument "signal processing requires finite samples")
  else .ok ()

def validateProjectionMetadata (sampleRateHz : UInt16) (frequencyHz : Binary32) : Except Exn Unit :=
  if sampleRateHz = 0 ∨ frequencyHz.isFinite = false then
    .error (.invalidArgument "invalid signal metadata for sine projection")
  else if frequencyHz.value ℚ ≤ 0 ∨ frequencyHz.value ℚ ≥ nyquistHz sampleRateHz then
    .error (.invalidArgument "sine projection frequency must be strictly between 0 and Nyquist")
  else .ok ()

/-- `static_cast<double>(samples[i])`. -/
def sampleValue (K : Type u) [Field K] (samples : List Binary32) (i : Nat) : K :=
  (samples.getD i ⟨0⟩).value K

/-! ## Moving average -/

/-- The index arithmetic of a window is that of `size_t`. -/
def windowBegin (radius i : Nat) : Nat := if i > radius then i - radius else 0

def windowEnd (size radius i : Nat) : Nat := min size ((i + radius + 1) % UInt64.size)

def movingAverageFilter (samples : List Binary32) (windowSize : Nat) :
    Except Exn (List Binary32) :=
  if windowSize = 0 ∨ windowSize % 2 = 0 then
    .error (.invalidArgument "moving-average window must be a positive odd number")
  else
    match validateFiniteSamples samples with
    | .error exn => .error exn
    | .ok () =>
        if samples = [] ∨ windowSize = 1 then .ok samples
        else
          let radius := windowSize / 2
          .ok ((List.range samples.length).map fun i =>
            let first := windowBegin radius i
            let last := windowEnd samples.length radius i
            Binary32.ofExact (loopSum first last (sampleValue ℚ samples) / ((last - first : Nat) : ℚ)))

/-! ## Sine projection -/

structure ProjectionCoefficients where
  dc : ℝ := 0
  sinCoefficient : ℝ := 0
  cosCoefficient : ℝ := 0

/-- `omega`: the phase from one sample to the next. -/
noncomputable def angularStep (sampleRateHz : UInt16) (frequencyHz : Binary32) : ℝ :=
  (2 : ℕ) * Real.pi * frequencyHz.value ℝ / sampleRateHz.toNat

/-- The phase of a sample, by its absolute index. -/
noncomputable def phaseAt (omega : ℝ) (startSampleIndex : UInt32) (i : Nat) : ℝ :=
  omega * (startSampleIndex.toNat + i : Nat)

noncomputable def estimateProjection (samples : List Binary32) (sampleRateHz : UInt16)
    (frequencyHz : Binary32) (startSampleIndex : UInt32) : Except Exn ProjectionCoefficients :=
  if samples = [] then .ok {}
  else
    match validateProjectionMetadata sampleRateHz frequencyHz with
    | .error exn => .error exn
    | .ok () =>
        match validateFiniteSamples samples with
        | .error exn => .error exn
        | .ok () =>
            let omega := angularStep sampleRateHz frequencyHz
            let phase := phaseAt omega startSampleIndex
            let x := sampleValue ℝ samples
            let count : ℝ := samples.length
            .ok
              { dc := loopSum 0 samples.length x / count
                sinCoefficient :=
                  (2 : ℕ) * loopSum 0 samples.length (fun i => x i * Real.sin (phase i)) / count
                cosCoefficient :=
                  (2 : ℕ) * loopSum 0 samples.length (fun i => x i * Real.cos (phase i)) / count }

noncomputable def sineProjectionFilter (samples : List Binary32) (sampleRateHz : UInt16)
    (frequencyHz : Binary32) (startSampleIndex : UInt32) : Except Exn (List Binary32) :=
  match estimateProjection samples sampleRateHz frequencyHz startSampleIndex with
  | .error exn => .error exn
  | .ok coefficients =>
      let omega := angularStep sampleRateHz frequencyHz
      .ok ((List.range samples.length).map fun i =>
        let phase := phaseAt omega startSampleIndex i
        Binary32.ofExact (coefficients.dc + coefficients.sinCoefficient * Real.sin phase +
          coefficients.cosCoefficient * Real.cos phase))

/-! ## Metrics -/

structure SignalMetrics where
  rawRms : ℝ := 0
  filteredRms : ℝ := 0
  residualNoiseRms : ℝ := 0
  estimatedSnrDb : EReal := 0
  estimatedAmplitude : ℝ := 0

noncomputable def decibelsPerAmplitudeDecade : ℝ := 20
noncomputable def numericalZeroEpsilon : ℝ := 1 / 10 ^ 12

noncomputable def rootMeanSquare (samples : List Binary32) : ℝ :=
  if samples = [] then 0
  else
    let x := sampleValue ℝ samples
    Real.sqrt (loopSum 0 samples.length (fun i => x i * x i) / samples.length)

noncomputable def residualRms (raw filtered : List Binary32) : ℝ :=
  if raw = [] then 0
  else
    let residual := fun i => sampleValue ℝ raw i - sampleValue ℝ filtered i
    Real.sqrt (loopSum 0 raw.length (fun i => residual i * residual i) / raw.length)

open Classical in
noncomputable def signalToNoise (filteredRms residualNoiseRms : ℝ) : EReal :=
  if residualNoiseRms ≤ numericalZeroEpsilon then ⊤
  else if filteredRms ≤ numericalZeroEpsilon then ⊥
  else (decibelsPerAmplitudeDecade * Real.logb 10 (filteredRms / residualNoiseRms) : ℝ)

noncomputable def computeSignalMetrics (raw filtered : List Binary32) (sampleRateHz : UInt16)
    (frequencyHz : Binary32) (startSampleIndex : UInt32) : Except Exn SignalMetrics :=
  if raw.length ≠ filtered.length then
    .error (.invalidArgument "raw and filtered signal sizes must match")
  else
    match validateProjectionMetadata sampleRateHz frequencyHz with
    | .error exn => .error exn
    | .ok () =>
        match validateFiniteSamples raw with
        | .error exn => .error exn
        | .ok () =>
            match validateFiniteSamples filtered with
            | .error exn => .error exn
            | .ok () =>
                let rawRms := rootMeanSquare raw
                let filteredRms := rootMeanSquare filtered
                let residualNoiseRms := residualRms raw filtered
                match estimateProjection raw sampleRateHz frequencyHz startSampleIndex with
                | .error exn => .error exn
                | .ok coefficients =>
                    .ok
                      { rawRms, filteredRms, residualNoiseRms
                        estimatedSnrDb := signalToNoise filteredRms residualNoiseRms
                        estimatedAmplitude :=
                          Real.sqrt (coefficients.sinCoefficient ^ 2 +
                            coefficients.cosCoefficient ^ 2) }

/-! ## On finite samples -/

/-- All samples are finite. -/
def AllFinite (samples : List Binary32) : Prop :=
  ∀ sample ∈ samples, sample.isFinite = true

theorem validateFiniteSamples_ok {samples : List Binary32} (finite : AllFinite samples) :
    validateFiniteSamples samples = .ok () := by
  rw [validateFiniteSamples, if_neg]
  simpa [AllFinite] using finite

theorem validateFiniteSamples_error {samples : List Binary32} (infinite : ¬ AllFinite samples) :
    validateFiniteSamples samples =
      .error (.invalidArgument "signal processing requires finite samples") := by
  rw [validateFiniteSamples, if_pos]
  simpa [AllFinite] using infinite

theorem abs_sampleValue_le {K : Type u} [Field K] [LinearOrder K] [IsStrictOrderedRing K]
    {samples : List Binary32} (finite : AllFinite samples) (i : Nat) :
    |sampleValue K samples i| ≤ floatMax K := by
  rw [sampleValue, List.getD_eq_getElem?_getD]
  by_cases inside : i < samples.length
  · rw [List.getElem?_eq_getElem inside, Option.getD_some]
    exact Binary32.abs_value_le (finite _ (List.getElem_mem inside))
  · rw [List.getElem?_eq_none (Nat.le_of_not_lt inside), Option.getD_none]
    exact Binary32.abs_value_le (by decide)

/-- A window inside a block of sensible size is not empty, so its mean is one. -/
theorem windowBegin_lt_windowEnd {size radius i : Nat} (inside : i < size)
    (fits : i + radius + 1 < UInt64.size) : windowBegin radius i < windowEnd size radius i := by
  rw [windowBegin, windowEnd, Nat.mod_eq_of_lt fits, lt_min_iff]
  split <;> omega

/-- **An average is finite.** -/
theorem movingAverageFilter_finite {samples : List Binary32} (finite : AllFinite samples)
    {windowSize : Nat} (odd : windowSize % 2 = 1) :
    ∃ filtered, movingAverageFilter samples windowSize = .ok filtered ∧
      filtered.length = samples.length ∧ AllFinite filtered := by
  have allowed : ¬ (windowSize = 0 ∨ windowSize % 2 = 0) := by omega
  rw [movingAverageFilter, if_neg allowed, validateFiniteSamples_ok finite]
  dsimp only
  split
  · exact ⟨samples, rfl, rfl, finite⟩
  · refine ⟨_, rfl, by simp, ?_⟩
    intro average member
    obtain ⟨i, _, rfl⟩ := List.mem_map.mp member
    rw [Binary32.ofExact_isFinite, loopSum_eq, ← Nat.card_Ico]
    exact abs_mean_le (floatMax_pos ℚ).le fun j _ => abs_sampleValue_le finite j

/-! ## On a checked block -/

section Checked

variable {signal : SignalBlockPayload} (checked : SignalChecked signal)

/-- The samples as numbers. -/
noncomputable def sampleSequence (signal : SignalBlockPayload) : Nat → ℝ :=
  sampleValue ℝ signal.samples

/-- The value of the projection at a sample: a weighted mean of the samples. -/
noncomputable def projectionAt (signal : SignalBlockPayload) (i : Nat) : ℝ :=
  kernelMean (sampleSequence signal) signal.samples.length
    (angularStep signal.sampleRateHz signal.frequencyHz) i

include checked

theorem validateProjectionMetadata_ok :
    validateProjectionMetadata signal.sampleRateHz signal.frequencyHz = .ok () := by
  rw [validateProjectionMetadata, if_neg (by simp [checked.sampleRate, checked.frequency]),
    if_neg (by simp [checked.positive, checked.belowNyquist])]

theorem estimateProjection_ok : ∃ coefficients,
    estimateProjection signal.samples signal.sampleRateHz signal.frequencyHz
      signal.startSampleIndex = .ok coefficients ∧
    ∀ i < signal.samples.length,
      coefficients.dc +
          coefficients.sinCoefficient * Real.sin (phaseAt
            (angularStep signal.sampleRateHz signal.frequencyHz) signal.startSampleIndex i) +
          coefficients.cosCoefficient * Real.cos (phaseAt
            (angularStep signal.sampleRateHz signal.frequencyHz) signal.startSampleIndex i) =
        projectionAt signal i := by
  unfold estimateProjection
  by_cases empty : signal.samples = []
  · refine ⟨{}, if_pos empty, ?_⟩
    simp [empty]
  · rw [if_neg empty, validateProjectionMetadata_ok checked, validateFiniteSamples_ok checked.samples]
    refine ⟨_, rfl, fun i _ => ?_⟩
    simp only [loopSum_eq, Nat.Ico_zero_eq_range, Nat.cast_ofNat]
    exact reconstruct_eq _ _ _ signal.startSampleIndex.toNat i

/-- **When a projection is finite.** -/
theorem sineProjectionFilter_checked : ∃ filtered,
    sineProjectionFilter signal.samples signal.sampleRateHz signal.frequencyHz
      signal.startSampleIndex = .ok filtered ∧
    filtered.length = signal.samples.length ∧
    (AllFinite filtered ↔ ∀ i < signal.samples.length, |projectionAt signal i| ≤ floatMax ℝ) := by
  obtain ⟨coefficients, estimated, value⟩ := estimateProjection_ok checked
  unfold sineProjectionFilter
  rw [estimated]
  refine ⟨_, rfl, by simp, ?_⟩
  constructor
  · intro finite i inside
    rw [← value i inside, ← Binary32.ofExact_isFinite]
    exact finite _ (List.mem_map.mpr ⟨i, List.mem_range.mpr inside, rfl⟩)
  · intro bounded sample member
    obtain ⟨i, inRange, rfl⟩ := List.mem_map.mp member
    have inside := List.mem_range.mp inRange
    dsimp only
    rw [Binary32.ofExact_isFinite, value i inside]
    exact bounded i inside

/-- **The metrics fail on nothing but a filtered sample that is not finite.** -/
theorem computeSignalMetrics_checked {filtered : List Binary32}
    (lengths : filtered.length = signal.samples.length) :
    (∃ metrics, computeSignalMetrics signal.samples filtered signal.sampleRateHz signal.frequencyHz
      signal.startSampleIndex = .ok metrics) ↔ AllFinite filtered := by
  obtain ⟨coefficients, estimated, _⟩ := estimateProjection_ok checked
  unfold computeSignalMetrics
  rw [if_neg (not_not.mpr lengths.symm), validateProjectionMetadata_ok checked,
    validateFiniteSamples_ok checked.samples]
  dsimp only
  by_cases finite : AllFinite filtered
  · rw [validateFiniteSamples_ok finite, estimated]
    exact iff_of_true ⟨_, rfl⟩ finite
  · rw [validateFiniteSamples_error finite]
    refine iff_of_false ?_ finite
    rintro ⟨metrics, computed⟩
    cases computed

omit checked in
/-- Samples within a third of the largest float are projected to finite ones. -/
theorem abs_projectionAt_le
    (third : ∀ sample ∈ signal.samples, |sample.value ℝ| ≤ floatMax ℝ / 3) (i : Nat)
    (inside : i < signal.samples.length) : |projectionAt signal i| ≤ floatMax ℝ := by
  have each : ∀ j < signal.samples.length, |sampleSequence signal j| ≤ floatMax ℝ / 3 := by
    intro j below
    rw [sampleSequence, sampleValue, List.getD_eq_getElem?_getD, List.getElem?_eq_getElem below,
      Option.getD_some]
    exact third _ (List.getElem_mem below)
  have bound := abs_kernelMean_le _ _ (angularStep signal.sampleRateHz signal.frequencyHz) each i
    inside
  rw [projectionAt]
  linarith

end Checked

end Stgs.Station
