/-
# Simulator.Generation -- the frames of accepted options

`parseArgs` encodes one payload in advance, so that a run does not discover an
incoherence half-way.  What it promises (`parseArgs_accepted`): sizes, metadata and
the counter of samples are fine for every frame of the run.  What it cannot see is
the sum of the sine and its noise, which a block of zeros does not show: the sum may
be more than a float holds, and the encoder refuses the block.

The arithmetic is exact; a float beyond the largest one is infinite.  The noise is
any multiple of the standard deviation.
-/
import Mathlib.Analysis.SpecialFunctions.Trigonometric.Basic
import Stgs.Simulator.FrameFactory
import Stgs.Theory.Postcondition
import Stgs.Wire.ApplicationBijection

namespace Stgs.Simulator

open Stgs.Cli Stgs.Theory Stgs.Wire

set_option autoImplicit false

variable {strtod : String → Strtod}

/-! ## What the arguments set -/

/-- What every value satisfies by itself. -/
structure Ranged (options : Options) : Prop where
  count : 0 < options.count
  payloadSize : options.payloadSize ≤ maxPayloadSize
  samples : 0 < options.signalSamples

theorem ranged_default (seed : UInt32) : Ranged { seed } where
  count := Nat.succ_pos _
  payloadSize := show 32 ≤ 4096 by decide
  samples := Nat.succ_pos _

theorem ensures_selectTransport {options : Options} (transport : Transport)
    (ranged : Ranged options) : Ensures Ranged (selectTransport options transport) :=
  .ite (fun _ => .error _) fun _ => .ok { ranged with }

theorem ensures_parseUnsigned (limit : Nat) (value name : String) (minimum maximum : Nat) :
    Ensures (fun parsed => minimum ≤ parsed ∧ parsed ≤ maximum)
      (parseUnsigned limit value name minimum maximum) := by
  intro parsed returned
  obtain ⟨low, high, _⟩ := parseUnsigned_bounds returned
  exact ⟨low, high⟩

/-- One argument leaves the values in range. -/
theorem ensures_parseStep {state : ParseState} (arg : String) (rest : List String)
    (ranged : Ranged state.options) :
    Ensures (fun out => Ranged out.1.options) (parseStep strtod arg rest state) := by
  unfold parseStep
  dsimp only
  refine .ite (fun _ => .error _) fun _ => ?_
  refine .ite (fun _ => .bind (ensures_selectTransport .udp ranged) fun _ selected => .ok selected)
    fun _ => ?_
  refine .ite (fun _ => .bind (ensures_selectTransport .tcp ranged) fun _ selected => .ok selected)
    fun _ => ?_
  -- the host and the ports
  refine .ite (fun _ => .after fun _ => .ok { ranged with }) fun _ => ?_
  refine .ite (fun _ => .after fun _ => .after fun _ => .ok { ranged with }) fun _ => ?_
  refine .ite (fun _ => .after fun _ => .after fun _ => .ok { ranged with }) fun _ => ?_
  refine .ite (fun _ => .after fun _ => .after fun _ => .ok { ranged with }) fun _ => ?_
  refine .ite (fun _ => ?count) fun _ => ?_
  case count =>
    refine .after fun _ => .bind (ensures_parseUnsigned _ _ _ _ _) ?_
    intro count range
    exact .ok { ranged with count := range.1 }
  -- the rate and the satellite
  refine .ite (fun _ => .after fun _ => .after fun _ =>
    .ite (fun _ => .error _) fun _ => .ok { ranged with }) fun _ => ?_
  refine .ite (fun _ => .after fun _ => .after fun _ => .ok { ranged with }) fun _ => ?_
  refine .ite (fun _ => ?payloadSize) fun _ => ?_
  case payloadSize =>
    refine .after fun _ => .bind (ensures_parseUnsigned _ _ _ _ _) ?_
    intro payloadSize range
    exact .ok { ranged with payloadSize := range.2 }
  -- the perturbations, the seed and the output
  refine .ite (fun _ => .after fun _ => .after fun _ => .ok { ranged with }) fun _ => ?_
  refine .ite (fun _ => .after fun _ => .after fun _ => .ok { ranged with }) fun _ => ?_
  refine .ite (fun _ => .after fun _ => .after fun _ => .ok { ranged with }) fun _ => ?_
  refine .ite (fun _ => .after fun _ => .ok { ranged with }) fun _ => ?_
  -- the payload modes
  refine .ite (fun _ => .after fun _ => .ok { ranged with }) fun _ => ?_
  refine .ite (fun _ => .ok { ranged with }) fun _ => ?_
  refine .ite (fun _ => .after fun _ => .after fun _ => .ok { ranged with }) fun _ => ?_
  refine .ite (fun _ => .after fun _ => .after fun _ => .ok { ranged with }) fun _ => ?_
  refine .ite (fun _ => .after fun _ => .after fun _ => .ok { ranged with }) fun _ => ?_
  refine .ite (fun _ => ?samples) fun _ => ?_
  case samples =>
    refine .after fun _ => .bind (ensures_parseUnsigned _ _ _ _ _) ?_
    intro samples range
    exact .ok { ranged with samples := range.1 }
  refine .ite (fun _ => .after fun _ => .after fun _ => .ok { ranged with }) fun _ => ?_
  exact .ite (fun _ => .ok { ranged with }) fun _ => .error _

/-- The loop over the arguments leaves the values in range. -/
theorem ensures_parseLoop (fuel : Nat) (args : List String) {state : ParseState}
    (ranged : Ranged state.options) :
    Ensures (fun final => Ranged final.options) (parseLoop strtod fuel args state) := by
  induction fuel generalizing args state with
  | zero => exact .ok ranged
  | succ fuel ih =>
      cases args with
      | nil => exact .ok ranged
      | cons arg rest =>
          rw [parseLoop]
          cases step : parseStep strtod arg rest state with
          | error stop => exact .error stop
          | ok out => exact ih out.2 (ensures_parseStep arg rest ranged out step)

/-! ## What `parseArgs` promises -/

/-- A block of a signal run. -/
def signalBlock (options : Options) (startSampleIndex : UInt32) (samples : List Binary32) :
    SignalBlockPayload where
  sampleRateHz := options.sampleRateHz
  frequencyHz := options.signalFrequencyHz
  nominalAmplitude := options.signalAmplitude
  startSampleIndex
  samples

/-- What is known of accepted options. -/
structure Accepted (options : Options) : Prop where
  ranged : Ranged options
  text : options.payloadMode = .textMessage → options.message.length ≤ maxTextMessageBytes
  probe : options.payloadMode = .signal →
    SignalEncodable (signalBlock options 0 (List.replicate options.signalSamples ⟨0⟩))
  indexed : options.payloadMode = .signal → (options.count - 1) * options.signalSamples ≤ maxU32

theorem Ranged.resolveCount {options : Options} (ranged : Ranged options) :
    Ranged (resolveCount options) := by
  unfold Simulator.resolveCount
  split
  · exact ranged
  · split
    · exact { ranged with count := Nat.succ_pos _ }
    · exact { ranged with count := Nat.succ_pos _ }
    · exact ranged

theorem checkEncodable_ok {options : Options} (ranged : Ranged options)
    (ok : checkEncodable options = .ok ()) : Accepted options := by
  unfold checkEncodable fail at ok
  split at ok
  · rename_i mode
    exact ⟨ranged, by simp [mode], by simp [mode], by simp [mode]⟩
  · rename_i mode
    dsimp only at ok
    split at ok <;> [cases ok; skip]
    rename_i payload encoded
    split at ok <;> [cases ok; skip]
    rename_i indexed
    have probe := ((encodeSignalBlockPayload_eq_ok_iff _ _).mp encoded).1
    exact ⟨ranged, by simp [mode], fun _ => probe, fun _ => Nat.le_of_not_lt indexed⟩
  · rename_i mode
    split at ok <;> [cases ok; skip]
    rename_i payload encoded
    have short := ((encodeTextMessagePayload_eq_ok_iff _ _).mp encoded).1
    exact ⟨ranged, fun _ => short, by simp [mode], by simp [mode]⟩

theorem parseArgs_accepted {randomDevice : UInt32} {args : List String} {options : Options}
    (parsed : parseArgs strtod randomDevice args = .ok options) : Accepted options := by
  obtain ⟨state, loop, parsed⟩ := bind_eq_ok.mp parsed
  obtain ⟨_, _, parsed⟩ := bind_eq_ok.mp parsed
  obtain ⟨_, _, parsed⟩ := bind_eq_ok.mp parsed
  obtain ⟨_, _, parsed⟩ := bind_eq_ok.mp parsed
  obtain ⟨_, encodable, parsed⟩ := bind_eq_ok.mp parsed
  obtain rfl := Except.ok.inj parsed
  have ranged := ensures_parseLoop _ _ (ranged_default randomDevice) state loop
  exact checkEncodable_ok ranged.resolveCount encodable

/-! ## The frames of accepted options -/

/-- The probe stands for every block of as many finite samples. -/
theorem signalBlock_encodable_iff {options : Options} {samples : List Binary32}
    (probe : SignalEncodable (signalBlock options 0 (List.replicate options.signalSamples ⟨0⟩)))
    (startSampleIndex : UInt32) (many : samples.length = options.signalSamples) :
    SignalEncodable (signalBlock options startSampleIndex samples) ↔
      ∀ sample ∈ samples, sample.isFinite = true := by
  constructor
  · intro encodable
    exact encodable.checked.samples
  · intro finite
    have short := probe.short
    rw [signalBlock, List.length_replicate, ← many] at short
    exact ⟨{ probe.checked with samples := finite }, short⟩

/-- The start of every block is a 32-bit index. -/
theorem Accepted.startIndex {options : Options} (accepted : Accepted options)
    (mode : options.payloadMode = .signal) {i : Nat} (inside : i < options.count) :
    i * options.signalSamples ≤ maxU32 :=
  (Nat.mul_le_mul_right _ (Nat.le_sub_one_of_lt inside)).trans (accepted.indexed mode)

/-- A block is encoded exactly if its samples are finite. -/
theorem makeSignalPayload_ok_iff {options : Options} (accepted : Accepted options)
    (mode : options.payloadMode = .signal) (draws : FrameDraws) {i : Nat}
    (inside : i < options.count) :
    (∃ payload, makeSignalPayload options draws i = .ok payload) ↔
      ∀ n < options.signalSamples, (draws.sample n).isFinite = true := by
  have index := accepted.startIndex mode inside
  have wide : maxU32 < UInt64.size := by decide
  have finite : (∀ sample ∈ (List.range options.signalSamples).map draws.sample,
      sample.isFinite = true) ↔ ∀ n < options.signalSamples, (draws.sample n).isFinite = true := by
    simp
  rw [makeSignalPayload]
  simp only [Nat.mod_eq_of_lt (Nat.lt_of_le_of_lt index wide)]
  rw [if_neg (Nat.not_lt.mpr index), ← finite,
    ← signalBlock_encodable_iff (accepted.probe mode) (UInt32.ofNat (i * options.signalSamples))
      (by simp)]
  constructor
  · rintro ⟨payload, encoded⟩
    exact ((encodeSignalBlockPayload_eq_ok_iff _ payload).mp encoded).1
  · intro encodable
    exact ⟨_, (encodeSignalBlockPayload_eq_ok_iff _ _).mpr ⟨encodable, rfl⟩⟩

/-- A payload that is made fits into a frame. -/
theorem makePayload_fits {options : Options} (ranged : Ranged options) {draws : FrameDraws}
    {i : Nat} {payload : ByteVector} (made : makePayload options draws i = .ok payload) :
    payload.length ≤ maxPayloadSize := by
  unfold makePayload at made
  split at made
  · obtain rfl := Except.ok.inj made
    rw [makeRandomPayload, List.length_map, List.length_range]
    exact ranged.payloadSize
  · exact encodeText_fits made
  · unfold makeSignalPayload at made
    dsimp only at made
    split at made
    · cases made
    · exact encodeSignal_fits made

/-- A payload is made exactly if no sample is infinite. -/
theorem makePayload_ok_iff {options : Options} (accepted : Accepted options) (draws : FrameDraws)
    {i : Nat} (inside : i < options.count) :
    (∃ payload, makePayload options draws i = .ok payload) ↔
      (options.payloadMode = .signal →
        ∀ n < options.signalSamples, (draws.sample n).isFinite = true) := by
  cases mode : options.payloadMode with
  | randomBytes =>
      refine iff_of_true ⟨makeRandomPayload options draws, ?_⟩ nofun
      rw [makePayload, mode]
  | textMessage =>
      refine iff_of_true ?_ nofun
      rw [makePayload, mode]
      exact ⟨_, (encodeTextMessagePayload_eq_ok_iff _ _).mpr ⟨accepted.text mode, rfl⟩⟩
  | signal =>
      have signal := makeSignalPayload_ok_iff accepted mode draws inside
      rw [makePayload, mode]
      exact signal.trans ⟨fun finite _ => finite, fun finite => finite rfl⟩

/-- A frame with its payload passes the other checks of the codec. -/
theorem makeFrame_encodable {options : Options} (ranged : Ranged options) {draws : FrameDraws}
    {i : Nat} {frame : TelemetryFrame} (temperature : draws.temperatureC.isFinite = true)
    (made : makeFrame options draws i = .ok frame) : Encodable frame := by
  unfold makeFrame at made
  cases payload : makePayload options draws i with
  | error exn => simp [payload] at made
  | ok bytes =>
      simp only [payload] at made
      obtain rfl := Except.ok.inj made
      refine ⟨makePayload_fits ranged payload, rfl, temperature, ?_, ?_⟩
      · have small : maxBatteryPercent.toNat - i % simulationBatteryCycleLength ≤ 100 :=
          Nat.sub_le 100 _
        rw [UInt8.le_iff_toNat_le, UInt8.toNat_ofNat',
          Nat.mod_eq_of_lt (Nat.lt_of_le_of_lt small (by decide))]
        exact small
      · have small : (draws.status : Nat) ≤ 3 := Nat.le_of_lt_succ draws.status.isLt
        rw [UInt8.le_iff_toNat_le, randomStatus, UInt8.toNat_ofNat',
          Nat.mod_eq_of_lt (Nat.lt_of_le_of_lt small (by decide))]
        exact small

/-- Frame `i` is made and encoded: no exception. -/
def Produced (options : Options) (draws : FrameDraws) (i : Nat) : Prop :=
  ∃ frame bytes, makeFrame options draws i = .ok frame ∧ encodeFrame frame = .ok bytes

theorem produced_iff {options : Options} (accepted : Accepted options) (draws : FrameDraws)
    (temperature : draws.temperatureC.isFinite = true) {i : Nat} (inside : i < options.count) :
    Produced options draws i ↔
      (options.payloadMode = .signal →
        ∀ n < options.signalSamples, (draws.sample n).isFinite = true) := by
  rw [← makePayload_ok_iff accepted draws inside]
  constructor
  · rintro ⟨frame, _, made, _⟩
    unfold makeFrame at made
    split at made
    · cases made
    · rename_i payload makes
      exact ⟨payload, makes⟩
  · rintro ⟨payload, makes⟩
    have made : ∃ frame, makeFrame options draws i = .ok frame := by
      rw [makeFrame, makes]
      exact ⟨_, rfl⟩
    obtain ⟨frame, made⟩ := made
    have encodable := makeFrame_encodable accepted.ranged temperature made
    exact ⟨frame, wire frame, made, (encodeFrame_eq_ok_iff _ _).mpr ⟨encodable, rfl⟩⟩

/-! ## Samples, computed exactly -/

/-- An outcome of the clock and the generator.  The parameters of the temperature are
fixed, its draw is finite; a draw of the noise is any multiple of the standard
deviation. -/
structure Outcome where
  nowMs : UInt64
  temperatureC : Binary32
  temperatureFinite : temperatureC.isFinite = true
  status : Fin 4
  payloadByte : Nat → UInt8
  deviate : Nat → ℝ

noncomputable def angularStep (options : Options) : ℝ :=
  (2 : ℕ) * Real.pi * options.signalFrequencyHz.value ℝ / options.sampleRateHz.toNat

noncomputable def clean (options : Options) (absoluteIndex : Nat) : ℝ :=
  options.signalAmplitude.value ℝ * Real.sin (angularStep options * absoluteIndex)

/-- `noise(rng)`. -/
noncomputable def noise (options : Options) (outcome : Outcome) (i : Nat) : ℝ :=
  options.noiseStddev.value ℝ * outcome.deviate i

/-- The sum of two floats: infinite if one of them is, or beyond the largest float. -/
noncomputable def floatSum (x y : ℝ) : Binary32 :=
  if |x| ≤ floatMax ℝ ∧ |y| ≤ floatMax ℝ then Binary32.ofExact (x + y) else ⟨0x7F800000⟩

/-- The draws of one frame. -/
noncomputable def drawsOf (options : Options) (outcome : Outcome) (blockIndex : Nat) :
    FrameDraws where
  nowMs := outcome.nowMs
  temperatureC := outcome.temperatureC
  status := outcome.status
  payloadByte := outcome.payloadByte
  sample i :=
    let startIndex64 := blockIndex * options.signalSamples % UInt64.size
    floatSum (clean options (startIndex64 + i)) (noise options outcome i)

/-- No noise, and no sum with it, is beyond the largest float. -/
def InRange (options : Options) (outcome : Outcome) (blockIndex : Nat) : Prop :=
  ∀ i < options.signalSamples, |noise options outcome i| ≤ floatMax ℝ ∧
    |clean options (blockIndex * options.signalSamples + i) + noise options outcome i| ≤ floatMax ℝ

theorem floatSum_isFinite (x y : ℝ) : (floatSum x y).isFinite = true ↔
    |x| ≤ floatMax ℝ ∧ |y| ≤ floatMax ℝ ∧ |x + y| ≤ floatMax ℝ := by
  unfold floatSum
  split
  · rename_i operands
    rw [Binary32.ofExact_isFinite]
    exact ⟨fun sum => ⟨operands.1, operands.2, sum⟩, fun all => all.2.2⟩
  · rename_i operands
    exact iff_of_false (by decide) fun all => operands ⟨all.1, all.2.1⟩

/-- The sine stays within its amplitude, which is a float. -/
theorem abs_clean_le {options : Options} (finite : options.signalAmplitude.isFinite = true)
    (absoluteIndex : Nat) : |clean options absoluteIndex| ≤ floatMax ℝ := by
  rw [clean, abs_mul]
  calc |options.signalAmplitude.value ℝ| * |Real.sin (angularStep options * absoluteIndex)|
      ≤ |options.signalAmplitude.value ℝ| * 1 :=
        mul_le_mul_of_nonneg_left (Real.abs_sin_le_one _) (abs_nonneg _)
    _ = |options.signalAmplitude.value ℝ| := mul_one _
    _ ≤ floatMax ℝ := Binary32.abs_value_le finite

/-- The samples of a block are finite exactly if its sums are in range. -/
theorem samples_isFinite_iff {options : Options} (accepted : Accepted options)
    (mode : options.payloadMode = .signal) (outcome : Outcome) {i : Nat}
    (inside : i < options.count) :
    (∀ n < options.signalSamples, ((drawsOf options outcome i).sample n).isFinite = true) ↔
      InRange options outcome i := by
  have index := accepted.startIndex mode inside
  have wide : maxU32 < UInt64.size := by decide
  have amplitude := (accepted.probe mode).checked.amplitude
  have start : i * options.signalSamples % UInt64.size = i * options.signalSamples :=
    Nat.mod_eq_of_lt (Nat.lt_of_le_of_lt index wide)
  refine forall₂_congr fun n _ => ?_
  rw [drawsOf]
  simp only [start, floatSum_isFinite]
  exact and_iff_right (abs_clean_le amplitude _)

/-- Without noise nothing is out of range. -/
theorem inRange_of_noiseless {options : Options} (accepted : Accepted options)
    (mode : options.payloadMode = .signal) (noiseless : options.noiseStddev.value ℝ = 0)
    (outcome : Outcome) (blockIndex : Nat) : InRange options outcome blockIndex := by
  intro i _
  have silent : noise options outcome i = 0 := by rw [noise, noiseless, zero_mul]
  rw [silent, abs_zero, add_zero]
  exact ⟨(floatMax_pos ℝ).le, abs_clean_le (accepted.probe mode).checked.amplitude _⟩

/-- The outcome whose every deviate is the same. -/
def steadyOutcome (deviate : ℝ) : Outcome where
  nowMs := 0
  temperatureC := ⟨0⟩
  temperatureFinite := by decide
  status := ⟨0, Nat.zero_lt_succ 3⟩
  payloadByte _ := 0
  deviate _ := deviate

/-- With noise some draw is out of range. -/
theorem exists_not_inRange {options : Options} (accepted : Accepted options)
    (noisy : options.noiseStddev.value ℝ ≠ 0) (blockIndex : Nat) :
    ∃ outcome, ¬ InRange options outcome blockIndex := by
  refine ⟨steadyOutcome ((2 : ℕ) * floatMax ℝ / options.noiseStddev.value ℝ), ?_⟩
  intro range
  have drawn := (range 0 accepted.ranged.samples).1
  have positive := floatMax_pos ℝ
  rw [noise, steadyOutcome, mul_div_cancel₀ _ noisy, abs_of_pos (by positivity)] at drawn
  push_cast at drawn
  linarith

/-- One frame of a run, with what is drawn for it. -/
theorem produced_iff_inRange {options : Options} (accepted : Accepted options)
    (outcome : Outcome) {i : Nat} (inside : i < options.count) :
    Produced options (drawsOf options outcome i) i ↔
      (options.payloadMode = .signal → InRange options outcome i) := by
  rw [produced_iff accepted (drawsOf options outcome i) outcome.temperatureFinite inside]
  refine forall_congr' fun mode => ?_
  exact samples_isFinite_iff accepted mode outcome inside

/-- **An accepted run produces all its frames, whatever is drawn,** exactly if it is not a
signal or has no noise; and one frame of it exactly if no sum of the sine and its noise
is beyond the largest float. -/
theorem produced_exactly {randomDevice : UInt32} {args : List String} {options : Options}
    (parsed : parseArgs strtod randomDevice args = .ok options) :
    ((∀ i < options.count, ∀ outcome, Produced options (drawsOf options outcome i) i) ↔
        (options.payloadMode = .signal → options.noiseStddev.value ℚ = 0)) ∧
      ∀ i < options.count, ∀ outcome, Produced options (drawsOf options outcome i) i ↔
        (options.payloadMode = .signal → InRange options outcome i) := by
  have accepted := parseArgs_accepted parsed
  have each (i : Nat) (inside : i < options.count) (outcome : Outcome) :=
    produced_iff_inRange accepted outcome inside
  refine ⟨?_, each⟩
  rw [← Binary32.value_eq_zero_iff ℝ]
  constructor
  · intro all mode
    by_contra noisy
    obtain ⟨outcome, outside⟩ := exists_not_inRange accepted noisy 0
    have first := all 0 accepted.ranged.count outcome
    exact outside ((each 0 accepted.ranged.count outcome).mp first mode)
  · intro noiseless i inside outcome
    refine (each i inside outcome).mpr fun mode => ?_
    exact inRange_of_noiseless accepted mode (noiseless mode) outcome i

/-- A `strtod` that reads one number. -/
def readsLoud (text : String) : Strtod :=
  if text = "3e38" then ⟨some (3 * 10 ^ 38), 4, false⟩ else ⟨none, 0, false⟩

def quietArguments : List String := ["--udp", "--signal"]
def loudArguments : List String := ["--udp", "--signal", "--noise-stddev", "3e38"]

def quietOptions : Options :=
  { transport := some .udp, payloadMode := .signal, count := 5, seed := 0 }

def loudOptions : Options := { quietOptions with noiseStddev := ⟨0x7F61B1E6⟩ }

/-- The last frame of the default signal run, which has no noise. -/
theorem produced_quiet :
    Produced quietOptions (drawsOf quietOptions (steadyOutcome (2 : ℕ)) 4) 4 :=
  (@produced_exactly readsLoud 0 quietArguments quietOptions (by decide +kernel)).1.mpr
    (fun _ => by decide +kernel) 4 (by decide) _

/-- A noise of two standard deviations is beyond the largest float: these options are
accepted, and the first frame is not produced. -/
theorem loud_refused :
    parseArgs readsLoud 0 loudArguments = .ok loudOptions ∧ 0 < loudOptions.count ∧
      ¬ Produced loudOptions (drawsOf loudOptions (steadyOutcome (2 : ℕ)) 0) 0 := by
  have parsed : parseArgs readsLoud 0 loudArguments = .ok loudOptions := by decide +kernel
  refine ⟨parsed, by decide, ?_⟩
  intro produced
  have accepted := parseArgs_accepted parsed
  have range := (produced_iff_inRange accepted _ accepted.ranged.count).mp produced rfl
  have drawn := (range 0 accepted.ranged.samples).1
  have beyond : floatMax ℚ < loudOptions.noiseStddev.value ℚ * (2 : ℕ) := by decide +kernel
  rw [← Rat.cast_lt (K := ℝ), Rat.cast_mul, floatMax_ratCast, Binary32.value_ratCast,
    Rat.cast_natCast] at beyond
  exact absurd (beyond.trans_le (le_abs_self _)) (not_lt.mpr drawn)

end Stgs.Simulator
