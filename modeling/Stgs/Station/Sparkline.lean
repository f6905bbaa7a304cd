/-
# Station.Sparkline -- a signal in a few characters

`TerminalUi::sparkline` parts a signal into as many buckets as it has columns and
draws the average of each as one of eight levels.  A bucket ends one sample after its
beginning at the earliest, which a bucket of the proportional cuts does by itself when
there are no more columns than samples (`bucketEnd_eq`): so the correction never
lengthens a bucket, and the buckets are a `Tiling` of the signal.

A level is an average's place between the smallest and the largest sample, clamped
and rounded.  It is a number as long as the samples are; the terminal is given a
signal after its metrics are computed, which refuses samples that are not finite
(`processSignal_shown`).  So what `sparkline_partition` says holds of every line
`receivedSignal` draws (`receivedSignal_partition`).
-/
import Mathlib
import Stgs.Station.MovingAverage
import Stgs.Theory.Partition
import Stgs.Wire.ApplicationBijection

namespace Stgs.Station

open Stgs.Theory Stgs.Theory.Projection Stgs.Theory.Sized Stgs.Theory.Traced Stgs.Wire

set_option autoImplicit false

/-! ## Constants -/

def signalLabelReserve : Nat := 28
def signalFallbackColumns : Nat := 40
def minimumSignalColumns : Nat := 24
def maximumSignalColumns : Nat := 96
def sparklineLevelCount : Nat := 8
def flatSignalNormalizedLevel : ℚ := 1 / 2

/-- `std::numeric_limits<double>::epsilon()`. -/
def doubleEpsilon : ℚ := 1 / 2 ^ 52

def unicodeLevels : List String := ["▁", "▂", "▃", "▄", "▅", "▆", "▇", "█"]

def asciiLevels : List Char := ['.', '_', '-', '~', '=', '+', '*', '#']

/-- `std::clamp`. -/
def clamp {α : Type} [LinearOrder α] (x low high : α) : α :=
  if x < low then low else if high < x then high else x

/-- The columns `receivedSignal` asks for, on a terminal of this width. -/
def signalColumns (width : Nat) : Nat :=
  clamp (if width > signalLabelReserve then width - signalLabelReserve else signalFallbackColumns)
    minimumSignalColumns maximumSignalColumns

/-! ## Buckets -/

/-- The index arithmetic of a bucket is that of `size_t`. -/
def bucketBegin (size outputColumns column : Nat) : Nat :=
  column * size % UInt64.size / outputColumns

def bucketEnd (size outputColumns column : Nat) : Nat :=
  max ((bucketBegin size outputColumns column + 1) % UInt64.size)
    ((column + 1) % UInt64.size * size % UInt64.size / outputColumns)

/-! ## Levels -/

/-- `std::minmax_element`, the values it points to. -/
def minimumSample (samples : List Binary32) : ℚ :=
  samples.foldl (fun least sample => if sample.value ℚ < least then sample.value ℚ else least)
    (sampleValue ℚ samples 0)

def maximumSample (samples : List Binary32) : ℚ :=
  samples.foldl
    (fun greatest sample => if sample.value ℚ < greatest then greatest else sample.value ℚ)
    (sampleValue ℚ samples 0)

/-- `std::lround`: halves away from zero. -/
def lround (x : ℚ) : ℤ :=
  if x < 0 then -⌊-x + 1 / 2⌋ else ⌊x + 1 / 2⌋

/-- `static_cast<std::size_t>` of a `long`. -/
def toSize (x : ℤ) : Nat := (x % UInt64.size).toNat

def normalizedLevel (minimum range average : ℚ) : ℚ :=
  if range ≤ doubleEpsilon then flatSignalNormalizedLevel
  else clamp ((average - minimum) / range) 0 1

def levelOf (normalized : ℚ) : Nat :=
  toSize (lround (normalized * (sparklineLevelCount - 1 : Nat)))

/-- The level of a column. -/
def sparklineLevel (samples : List Binary32) (outputColumns column : Nat) : Nat :=
  let minimum := minimumSample samples
  let range := maximumSample samples - minimum
  let average := averageBetween samples (bucketBegin samples.length outputColumns column)
    (bucketEnd samples.length outputColumns column)
  levelOf (normalizedLevel minimum range average)

def levelText (unicode : Bool) (level : Nat) : String :=
  if unicode then unicodeLevels.getD level "" else String.singleton (asciiLevels.getD level ' ')

def sparkline (samples : List Binary32) (columns : Nat) (unicode : Bool) : String :=
  if samples = [] ∨ columns = 0 then ""
  else
    let outputColumns := min columns samples.length
    (List.range outputColumns).foldl (fun out column =>
      out ++ levelText unicode (sparklineLevel samples outputColumns column)) ""

/-! ## The same with its arithmetic -/

def observeBucketBegin (size outputColumns column : Nat) : Traced SizeOp Nat := do
  let scaled ← multiply UInt64.size column size
  divide scaled outputColumns

def observeBucketEnd (size outputColumns first column : Nat) : Traced SizeOp Nat := do
  let least ← add UInt64.size first 1
  let next ← add UInt64.size column 1
  let scaled ← multiply UInt64.size next size
  let boundary ← divide scaled outputColumns
  return max least boundary

def observeNormalizedLevel (minimum range average : ℚ) : Traced SizeOp ℚ :=
  if range ≤ doubleEpsilon then return flatSignalNormalizedLevel
  else do
    let ratio ← quotient (average - minimum) range
    return clamp ratio 0 1

def observeLevelText (unicode : Bool) (level : Nat) : Traced SizeOp String :=
  if unicode then load unicodeLevels level ""
  else do
    let character ← load asciiLevels level ' '
    return String.singleton character

def observeSparkline (samples : List Binary32) (columns : Nat) (unicode : Bool) :
    Traced SizeOp String :=
  if samples = [] ∨ columns = 0 then return ""
  else
    let minimum := minimumSample samples
    let range := maximumSample samples - minimum
    let outputColumns := min columns samples.length
    forLoop UInt64.size 0 outputColumns (fun out column => do
      let first ← observeBucketBegin samples.length outputColumns column
      let last ← observeBucketEnd samples.length outputColumns first column
      let average ← observeAverage samples first last
      let normalized ← observeNormalizedLevel minimum range average
      let text ← observeLevelText unicode (levelOf normalized)
      return out ++ text) ""

/-! ## Buckets are proportional parts -/

section Buckets

variable {size outputColumns column : Nat}

theorem bucketBegin_eq (fits : outputColumns * size < UInt64.size)
    (below : column < outputColumns) :
    bucketBegin size outputColumns column = proportionalCut size outputColumns column := by
  have product : column * size ≤ outputColumns * size := Nat.mul_le_mul_right size below.le
  rw [bucketBegin, Nat.mod_eq_of_lt (by omega), proportionalCut]

/-- **The correction is idle**: the next cut is one further anyway. -/
theorem bucketEnd_eq (room : outputColumns ≤ size) (fits : outputColumns * size < UInt64.size)
    (below : column < outputColumns) :
    bucketEnd size outputColumns column = proportionalCut size outputColumns (column + 1) := by
  have some : 0 < outputColumns := Nat.zero_lt_of_lt below
  have product : (column + 1) * size ≤ outputColumns * size := Nat.mul_le_mul_right size below
  have wide : size ≤ outputColumns * size := Nat.le_mul_of_pos_left size some
  have next := proportionalCut_lt some room column
  have last : proportionalCut size outputColumns (column + 1) ≤ size :=
    (proportionalCut_tiling some room).inside column below
  rw [bucketEnd, bucketBegin_eq fits below, Nat.mod_eq_of_lt (by omega : column + 1 < UInt64.size),
    Nat.mod_eq_of_lt (by omega : (column + 1) * size < UInt64.size), Nat.mod_eq_of_lt (by omega)]
  exact max_eq_right next

theorem bucket_tiling (some : 0 < outputColumns) (room : outputColumns ≤ size)
    (fits : outputColumns * size < UInt64.size) :
    Tiling (bucketBegin size outputColumns) (bucketEnd size outputColumns) outputColumns size :=
  (proportionalCut_tiling some room).congr some (fun _ below => bucketBegin_eq fits below)
    (fun _ below => bucketEnd_eq room fits below)

end Buckets

/-! ## Levels are entries of the table -/

theorem clamp_between {α : Type} [LinearOrder α] {low high : α} (order : low ≤ high) (x : α) :
    low ≤ clamp x low high ∧ clamp x low high ≤ high := by
  unfold clamp
  split_ifs with under above
  · exact ⟨le_rfl, order⟩
  · exact ⟨order, le_rfl⟩
  · exact ⟨not_lt.mp under, not_lt.mp above⟩

theorem normalizedLevel_between (minimum range average : ℚ) :
    0 ≤ normalizedLevel minimum range average ∧ normalizedLevel minimum range average ≤ 1 := by
  unfold normalizedLevel
  split
  · norm_num [flatSignalNormalizedLevel]
  · exact clamp_between zero_le_one _

/-- Rounding stays between the natural numbers its argument is between. -/
theorem lround_between {x : ℚ} {bound : Nat} (nonneg : 0 ≤ x) (below : x ≤ bound) :
    0 ≤ lround x ∧ lround x ≤ bound := by
  rw [lround, if_neg (not_lt.mpr nonneg)]
  constructor
  · exact Int.floor_nonneg.mpr (by linarith)
  · apply Int.lt_add_one_iff.mp
    apply Int.floor_lt.mpr
    push_cast
    linarith

/-- **A level is one of the eight.** -/
theorem levelOf_lt {normalized : ℚ} (nonneg : 0 ≤ normalized) (most : normalized ≤ 1) :
    levelOf normalized < sparklineLevelCount := by
  have seven : normalized * (sparklineLevelCount - 1 : Nat) ≤ (sparklineLevelCount - 1 : Nat) :=
    mul_le_of_le_one_left (Nat.cast_nonneg _) most
  obtain ⟨low, high⟩ := lround_between (mul_nonneg nonneg (Nat.cast_nonneg _)) seven
  have whole : (UInt64.size : ℤ) = 2 ^ 64 := rfl
  have count : sparklineLevelCount = 8 := rfl
  rw [levelOf, toSize, Int.emod_eq_of_lt low (by omega)]
  omega

theorem sparklineLevel_lt (samples : List Binary32) (outputColumns column : Nat) :
    sparklineLevel samples outputColumns column < sparklineLevelCount := by
  obtain ⟨nonneg, most⟩ := normalizedLevel_between (minimumSample samples)
    (maximumSample samples - minimumSample samples)
    (averageBetween samples (bucketBegin samples.length outputColumns column)
      (bucketEnd samples.length outputColumns column))
  exact levelOf_lt nonneg most

/-! ## The whole line -/

section Line

variable {samples : List Binary32} {columns outputColumns column : Nat}

theorem sound_bucketBegin (fits : outputColumns * samples.length < UInt64.size)
    (below : column < outputColumns) :
    Soundly UInt64.size (observeBucketBegin samples.length outputColumns column)
      (bucketBegin samples.length outputColumns column) := by
  have product : column * samples.length ≤ outputColumns * samples.length :=
    Nat.mul_le_mul_right _ below.le
  rw [bucketBegin_eq fits below]
  refine (sound_multiply (by omega)).bind ?_
  exact sound_divide (Nat.zero_lt_of_lt below)

theorem sound_bucketEnd (room : outputColumns ≤ samples.length)
    (fits : outputColumns * samples.length < UInt64.size) (below : column < outputColumns) :
    Soundly UInt64.size
      (observeBucketEnd samples.length outputColumns
        (bucketBegin samples.length outputColumns column) column)
      (bucketEnd samples.length outputColumns column) := by
  have some : 0 < outputColumns := Nat.zero_lt_of_lt below
  have tiling := bucket_tiling some room fits
  have nonempty := tiling.nonempty column below
  have inside := tiling.inside column below
  have wide : samples.length ≤ outputColumns * samples.length :=
    Nat.le_mul_of_pos_left _ some
  have product : (column + 1) * samples.length ≤ outputColumns * samples.length :=
    Nat.mul_le_mul_right _ below
  refine (sound_add (by omega)).bind ?_
  refine (sound_add (by omega)).bind ?_
  refine (sound_multiply (by omega)).bind ?_
  refine (sound_divide some).bind (keeps_pure_of ?_)
  rw [bucketEnd, Nat.mod_eq_of_lt (by omega : column + 1 < UInt64.size),
    Nat.mod_eq_of_lt (by omega : (column + 1) * samples.length < UInt64.size),
    Nat.mod_eq_of_lt (by omega)]

theorem sound_normalizedLevel (minimum range average : ℚ) :
    Soundly UInt64.size (observeNormalizedLevel minimum range average)
      (normalizedLevel minimum range average) := by
  refine Keeps.ite (fun _ => keeps_pure _) ?_
  intro wide
  have positive : 0 < range := lt_trans (by norm_num [doubleEpsilon]) (not_le.mp wide)
  exact (sound_quotient positive.ne').bind (keeps_pure _)

theorem sound_levelText (unicode : Bool) {level : Nat} (entry : level < sparklineLevelCount) :
    Soundly UInt64.size (observeLevelText unicode level) (levelText unicode level) := by
  refine Keeps.ite ?_ ?_
  · intro _
    exact sound_load entry ""
  · intro _
    exact (sound_load (show level < asciiLevels.length from entry) ' ').bind (keeps_pure _)

theorem sound_sparkline (fits : min columns samples.length * samples.length < UInt64.size)
    (unicode : Bool) :
    Soundly UInt64.size (observeSparkline samples columns unicode)
      (sparkline samples columns unicode) := by
  refine Keeps.ite (fun _ => keeps_pure _) ?_
  intro drawn
  have room : min columns samples.length ≤ samples.length := min_le_right _ _
  have sized : 0 < samples.length := List.length_pos_of_ne_nil (fun empty => drawn (Or.inl empty))
  have wide : min columns samples.length ≤ min columns samples.length * samples.length :=
    Nat.le_mul_of_pos_right _ sized
  dsimp only
  rw [List.range_eq_range']
  refine sound_forLoop (by omega) (fun _ => True) ?_ "" trivial
  intro out _ column _ below
  refine ⟨?_, trivial⟩
  have tiling := bucket_tiling (Nat.zero_lt_of_lt below) room fits
  have inside := tiling.inside column below
  have whole : samples.length ≤ min columns samples.length * samples.length :=
    Nat.le_mul_of_pos_left _ (Nat.zero_lt_of_lt below)
  refine (sound_bucketBegin fits below).bind ?_
  refine (sound_bucketEnd room fits below).bind ?_
  refine (sound_average (tiling.nonempty column below) inside (by omega)).bind ?_
  refine (sound_normalizedLevel _ _ _).bind ?_
  refine (sound_levelText unicode (sparklineLevel_lt samples _ column)).bind ?_
  exact keeps_pure _

end Line

/-- What a sparkline does with its samples. -/
structure SparklinePartition (samples : List Binary32) (columns : Nat) : Prop where
  buckets : Tiling (bucketBegin samples.length (min columns samples.length))
    (bucketEnd samples.length (min columns samples.length)) (min columns samples.length)
    samples.length
  /-- on finite samples no product wraps, every index is inside, no divisor is zero -/
  sound : AllFinite samples → ∀ unicode,
    Soundly UInt64.size (observeSparkline samples columns unicode)
      (sparkline samples columns unicode)
  level : AllFinite samples → ∀ column < min columns samples.length,
    sparklineLevel samples (min columns samples.length) column < sparklineLevelCount

/-- The product a sparkline needs: the last boundary it computes. -/
theorem sparklinePartition_of {samples : List Binary32} {columns : Nat}
    (nonempty : 1 ≤ samples.length) (some : 1 ≤ columns)
    (fits : min columns samples.length * samples.length < UInt64.size) :
    SparklinePartition samples columns where
  buckets := bucket_tiling (lt_min some nonempty) (min_le_right _ _) fits
  sound _ unicode := sound_sparkline fits unicode
  level _ column _ := sparklineLevel_lt samples _ column

/-- **The buckets of a sparkline partition the signal**, and every level is one of the
eight. -/
theorem sparkline_partition {samples : List Binary32} {columns : Nat}
    (nonempty : 1 ≤ samples.length) (some : 1 ≤ columns)
    (fits : samples.length * (min columns samples.length + 1) < UInt64.size) :
    SparklinePartition samples columns := by
  refine sparklinePartition_of nonempty some ?_
  rw [Nat.mul_add, Nat.mul_comm] at fits
  omega

/-- Seven samples in three columns. -/
theorem sparkline_partition_seven :
    SparklinePartition (List.replicate 7 ⟨0x3F800000⟩) 3 :=
  sparkline_partition (by decide) (by decide) (by decide)

/-! ## What the terminal is given -/

/-- What is shown has passed the metrics. -/
theorem processSignal_shown {options : Options} {frame : TelemetryFrame}
    {signal : SignalBlockPayload} {satelliteId sampleRateHz : UInt16}
    {frequencyHz nominalAmplitude : Binary32} {raw filtered : List Binary32}
    {metrics : SignalMetrics} {mode : SignalFilterMode}
    (shows : processSignal options frame signal =
      .ok (.signal satelliteId sampleRateHz frequencyHz nominalAmplitude raw filtered metrics mode)) :
    raw = signal.samples ∧ filtered.length = raw.length ∧ AllFinite raw ∧ AllFinite filtered := by
  unfold processSignal at shows
  split at shows
  · cases shows
  rename_i applied _
  split at shows
  · cases shows
  rename_i computed
  cases shows
  unfold computeSignalMetrics at computed
  split at computed
  · cases computed
  rename_i lengths
  split at computed
  · cases computed
  by_cases rawFinite : AllFinite signal.samples
  · rw [validateFiniteSamples_ok rawFinite] at computed
    by_cases filteredFinite : AllFinite filtered
    · exact ⟨rfl, (not_not.mp lengths).symm, rawFinite, filteredFinite⟩
    · rw [validateFiniteSamples_error filteredFinite] at computed
      cases computed
  · rw [validateFiniteSamples_error rawFinite] at computed
    cases computed

theorem signalColumns_between (width : Nat) :
    minimumSignalColumns ≤ signalColumns width ∧ signalColumns width ≤ maximumSignalColumns :=
  clamp_between (by decide) _

/-- **The lines of a shown signal**: of the samples received and of the filtered ones. -/
theorem receivedSignal_partition {options : Options} {frame : TelemetryFrame}
    {signal : SignalBlockPayload} {satelliteId sampleRateHz : UInt16}
    {frequencyHz nominalAmplitude : Binary32} {raw filtered : List Binary32}
    {metrics : SignalMetrics} {mode : SignalFilterMode}
    (decoded : decodeApplicationPayload frame.payload = .signal signal)
    (shows : processSignal options frame signal =
      .ok (.signal satelliteId sampleRateHz frequencyHz nominalAmplitude raw filtered metrics mode))
    (nonempty : raw ≠ []) (width : Nat) :
    ∀ samples ∈ [raw, filtered],
      AllFinite samples ∧ SparklinePartition samples (signalColumns width) := by
  obtain ⟨same, lengths, rawFinite, filteredFinite⟩ := processSignal_shown shows
  obtain ⟨low, high⟩ := signalColumns_between width
  have some : 1 ≤ signalColumns width := le_trans (by decide) low
  have sized : 1 ≤ raw.length := List.length_pos_of_ne_nil nonempty
  have short : raw.length < UInt16.size := by
    obtain ⟨_, _, _, spelled⟩ := (decode_signal_iff _ _).mp decoded
    rw [same, spelled, signalOf, List.length_map, List.length_range]
    exact UInt16.toNat_lt _
  have partition (samples : List Binary32) (length : samples.length = raw.length) :
      SparklinePartition samples (signalColumns width) := by
    refine sparklinePartition_of (length ▸ sized) some ?_
    have product : min (signalColumns width) samples.length * samples.length ≤
        maximumSignalColumns * UInt16.size :=
      Nat.mul_le_mul ((min_le_left _ _).trans high) (by omega)
    exact lt_of_le_of_lt product (by decide)
  intro samples member
  rcases List.mem_pair.mp member with rfl | rfl
  · exact ⟨rawFinite, partition _ rfl⟩
  · exact ⟨filteredFinite, partition _ lengths⟩

end Stgs.Station
