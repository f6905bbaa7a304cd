/-
# Station.MovingAverage -- the centred average on every window

The window of a sample is cut off at both borders, by a comparison on the left and a
minimum on the right, and its bounds are computed in `size_t`.
`observeMovingAverageFilter` is the filter once more with every step of this
arithmetic, every access and every division.  Below 2^62 samples no window wraps, be
it as wide as `size_t` allows: the largest index is below 2^62, the largest radius
below 2^63.

`movingAverage_centred` is the result: what the filter gives is the `centredMean` of
each sample's neighbours, cast to float (`CentredAverage`).
-/
import Mathlib
import Stgs.Station.Processing
import Stgs.Theory.CentredMean
import Stgs.Theory.SizeArithmetic

namespace Stgs.Station

open Stgs.Theory Stgs.Theory.Projection Stgs.Theory.Sized Stgs.Theory.Traced Stgs.Wire

set_option autoImplicit false

universe u

/-! ## The filter with its arithmetic -/

def observeWindowBegin (radius i : Nat) : Traced SizeOp Nat :=
  if i > radius then subtract UInt64.size i radius else return 0

def observeWindowEnd (size radius i : Nat) : Traced SizeOp Nat := do
  let reach ← add UInt64.size i radius
  let next ← add UInt64.size reach 1
  return min size next

/-- `sum += static_cast<double>(samples[j])` over a window. -/
def observeSum (samples : List Binary32) (first last : Nat) : Traced SizeOp ℚ :=
  forLoop UInt64.size first last (fun sum j => do
    let sample ← load samples j ⟨0⟩
    return sum + sample.value ℚ) 0

/-- The average of the samples from `first` up to `last`. -/
def observeAverage (samples : List Binary32) (first last : Nat) : Traced SizeOp ℚ := do
  let sum ← observeSum samples first last
  let count ← subtract UInt64.size last first
  quotient sum count

/-- The body of the outer loop, up to the cast. -/
def observeMean (samples : List Binary32) (radius i : Nat) : Traced SizeOp ℚ := do
  let first ← observeWindowBegin radius i
  let last ← observeWindowEnd samples.length radius i
  observeAverage samples first last

/-- The outer loop, which fills the output. -/
def observeAverages (samples : List Binary32) (radius : Nat) : Traced SizeOp (List Binary32) :=
  forLoop UInt64.size 0 samples.length (fun filtered i => do
    let mean ← observeMean samples radius i
    store filtered i (Binary32.ofExact mean)) (List.replicate samples.length ⟨0⟩)

def observeMovingAverageFilter (samples : List Binary32) (windowSize : Nat) :
    Traced SizeOp (Except Exn (List Binary32)) :=
  if windowSize = 0 ∨ windowSize % 2 = 0 then
    return .error (.invalidArgument "moving-average window must be a positive odd number")
  else
    match validateFiniteSamples samples with
    | .error exn => return .error exn
    | .ok () =>
        if samples = [] ∨ windowSize = 1 then return .ok samples
        else do
          let radius ← divide windowSize 2
          let filtered ← observeAverages samples radius
          return .ok filtered

/-! ## A window is the neighbours of its sample -/

theorem windowBegin_eq (radius i : Nat) : windowBegin radius i = i - radius := by
  rw [windowBegin]
  split <;> omega

theorem windowEnd_eq {size radius i : Nat} (fits : i + radius + 1 < UInt64.size) :
    windowEnd size radius i = min size (i + radius + 1) := by
  rw [windowEnd, Nat.mod_eq_of_lt fits]

/-- The average of the samples from `first` up to `last`. -/
def averageBetween (samples : List Binary32) (first last : Nat) : ℚ :=
  loopSum first last (sampleValue ℚ samples) / ((last - first : Nat) : ℚ)

/-- The average over the window of a sample. -/
def windowMean (samples : List Binary32) (radius i : Nat) : ℚ :=
  averageBetween samples (windowBegin radius i) (windowEnd samples.length radius i)

theorem windowMean_eq (samples : List Binary32) {radius i : Nat}
    (fits : i + radius + 1 < UInt64.size) :
    windowMean samples radius i = centredMean (sampleValue ℚ samples) samples.length radius i := by
  rw [windowMean, averageBetween, loopSum_eq, ← Nat.card_Ico, windowBegin_eq, windowEnd_eq fits,
    ← neighbours_eq_Ico, centredMean]

/-- An index below 2^62 and the radius of a window do not reach 2^64. -/
theorem window_fits {size i windowSize : Nat} (inside : i < size) (short : size < 2 ^ 62)
    (word : windowSize < UInt64.size) : i + windowSize / 2 + 1 < UInt64.size := by
  have whole : UInt64.size = 2 ^ 64 := rfl
  omega

/-! ## The arithmetic is sound -/

section Sound

variable {samples : List Binary32} {radius i : Nat}

theorem sound_windowBegin (word : i < UInt64.size) :
    Soundly UInt64.size (observeWindowBegin radius i) (windowBegin radius i) := by
  refine Keeps.ite ?_ ?_
  · intro right
    exact sound_subtract (Nat.le_of_lt right) word
  · intro _
    exact keeps_pure 0

theorem sound_windowEnd (size : Nat) (fits : i + radius + 1 < UInt64.size) :
    Soundly UInt64.size (observeWindowEnd size radius i) (windowEnd size radius i) := by
  rw [windowEnd_eq fits]
  refine (sound_add (by omega)).bind ?_
  refine (sound_add fits).bind ?_
  exact keeps_pure _

theorem sound_sum {first last : Nat} (inside : last ≤ samples.length)
    (word : last < UInt64.size) :
    Soundly UInt64.size (observeSum samples first last)
      (loopSum first last (sampleValue ℚ samples)) := by
  refine sound_forLoop word (fun _ => True) ?_ 0 trivial
  intro sum _ j _ below
  refine ⟨?_, trivial⟩
  exact (sound_load (Nat.lt_of_lt_of_le below inside) _).bind (keeps_pure _)

theorem sound_average {first last : Nat} (inOrder : first < last)
    (inside : last ≤ samples.length) (word : last < UInt64.size) :
    Soundly UInt64.size (observeAverage samples first last)
      (averageBetween samples first last) := by
  refine (sound_sum inside word).bind ?_
  refine (sound_subtract inOrder.le word).bind ?_
  apply sound_quotient
  exact Nat.cast_ne_zero.mpr (by omega)

theorem sound_mean (inside : i < samples.length) (fits : i + radius + 1 < UInt64.size) :
    Soundly UInt64.size (observeMean samples radius i) (windowMean samples radius i) := by
  have last : windowEnd samples.length radius i = min samples.length (i + radius + 1) :=
    windowEnd_eq fits
  refine (sound_windowBegin (by omega)).bind ?_
  refine (sound_windowEnd _ fits).bind ?_
  exact sound_average (windowBegin_lt_windowEnd inside fits) (by omega) (by omega)

theorem sound_averages (fits : samples.length + radius < UInt64.size) :
    Soundly UInt64.size (observeAverages samples radius)
      ((List.range samples.length).map fun i => Binary32.ofExact (windowMean samples radius i)) := by
  let average := fun i => Binary32.ofExact (windowMean samples radius i)
  have filled : (List.range samples.length).map average =
      (List.range' 0 (samples.length - 0)).foldl (fun filtered i => filtered.set i (average i))
        (List.replicate samples.length ⟨0⟩) := by
    rw [Nat.sub_zero, foldl_set _ _ (by simp)]
    simp
  rw [filled]
  -- the vector keeps the length it was made with
  refine sound_forLoop (by omega) (fun filtered => filtered.length = samples.length) ?_ _
    List.length_replicate
  intro filtered same i _ below
  refine ⟨(sound_mean below (by omega)).bind (sound_store (by omega) _), ?_⟩
  rw [List.length_set, same]

end Sound

/-! ## What the filter is for -/

/-- Between the smallest and the largest sample. -/
def Between (samples : List Binary32) (x : ℚ) : Prop :=
  (∃ low ∈ samples, low.value ℚ ≤ x) ∧ ∃ high ∈ samples, x ≤ high.value ℚ

/-- The mean of the samples at distance at most `windowSize / 2`. -/
def neighbourMean (samples : List Binary32) (windowSize i : Nat) : ℚ :=
  centredMean (sampleValue ℚ samples) samples.length (windowSize / 2) i

/-- What a centred average is. -/
structure CentredAverage (samples : List Binary32) (windowSize : Nat) (filtered : List Binary32) :
    Prop where
  computed : movingAverageFilter samples windowSize = .ok filtered
  /-- no index computation wraps, every index is inside, no divisor is zero -/
  sound : Soundly UInt64.size (observeMovingAverageFilter samples windowSize) (.ok filtered)
  length : filtered.length = samples.length
  /-- every output is the mean, cast to float -/
  mean : ∀ i < samples.length,
    sampleValue ℚ filtered i = (Binary32.ofExact (neighbourMean samples windowSize i)).value ℚ
  meanBetween : ∀ i < samples.length, Between samples (neighbourMean samples windowSize i)
  between : ∀ i < samples.length, Between samples (sampleValue ℚ filtered i)
  finite : AllFinite filtered
  mirrored : movingAverageFilter samples.reverse windowSize = .ok filtered.reverse

section Filter

variable {samples : List Binary32} {windowSize : Nat}

theorem sampleValue_getElem (K : Type u) [Field K] (samples : List Binary32) {i : Nat}
    (inside : i < samples.length) : sampleValue K samples i = samples[i].value K := by
  rw [sampleValue, List.getD_eq_getElem _ _ inside]

theorem sampleValue_reverse (K : Type u) [Field K] (samples : List Binary32) {i : Nat}
    (inside : i < samples.length) :
    sampleValue K samples.reverse i = sampleValue K samples (samples.length - 1 - i) := by
  rw [sampleValue_getElem K _ (by simpa using inside), sampleValue_getElem K _ (by omega),
    List.getElem_reverse]

theorem AllFinite.reverse (finite : AllFinite samples) : AllFinite samples.reverse :=
  fun sample member => finite sample (List.mem_reverse.mp member)

/-- The outputs of a window that is wider than one sample. -/
def averages (samples : List Binary32) (windowSize : Nat) : List Binary32 :=
  (List.range samples.length).map fun i => Binary32.ofExact (neighbourMean samples windowSize i)

/-- A window of one sample changes nothing; every other one gives the averages. -/
theorem movingAverageFilter_eq (finite : AllFinite samples) (short : samples.length < 2 ^ 62)
    (odd : windowSize % 2 = 1) (word : windowSize < UInt64.size) :
    movingAverageFilter samples windowSize =
      .ok (if windowSize = 1 then samples else averages samples windowSize) := by
  have allowed : ¬ (windowSize = 0 ∨ windowSize % 2 = 0) := by omega
  rw [movingAverageFilter, if_neg allowed, validateFiniteSamples_ok finite]
  dsimp only
  by_cases one : windowSize = 1
  · rw [if_pos (Or.inr one), if_pos one]
  rw [if_neg one]
  by_cases empty : samples = []
  · rw [if_pos (Or.inl empty), empty]
    rfl
  rw [if_neg (by simp [empty, one]), averages]
  congr 1
  apply List.map_congr_left
  intro i member
  have inside := List.mem_range.mp member
  exact congrArg Binary32.ofExact (windowMean_eq samples (window_fits inside short word))

theorem sound_movingAverageFilter (finite : AllFinite samples) (short : samples.length < 2 ^ 62)
    (odd : windowSize % 2 = 1) (word : windowSize < UInt64.size) :
    Soundly UInt64.size (observeMovingAverageFilter samples windowSize)
      (movingAverageFilter samples windowSize) := by
  have allowed : ¬ (windowSize = 0 ∨ windowSize % 2 = 0) := by omega
  have whole : UInt64.size = 2 ^ 64 := rfl
  rw [observeMovingAverageFilter, movingAverageFilter, if_neg allowed, if_neg allowed,
    validateFiniteSamples_ok finite]
  refine Keeps.ite (fun _ => keeps_pure _) ?_
  intro _
  refine (sound_divide (by decide)).bind ?_
  refine (sound_averages (by omega)).bind ?_
  exact keeps_pure _

/-- An output of the filter is the mean cast to float, whichever branch made it. -/
theorem sampleValue_filtered (finite : AllFinite samples) {i : Nat} (inside : i < samples.length) :
    sampleValue ℚ (if windowSize = 1 then samples else averages samples windowSize) i =
      (Binary32.ofExact (neighbourMean samples windowSize i)).value ℚ := by
  split
  · rename_i one
    have own : neighbourMean samples windowSize i = sampleValue ℚ samples i := by
      rw [neighbourMean, one]
      exact centredMean_zero _ inside
    rw [own, sampleValue_getElem ℚ samples inside,
      Binary32.value_ofExact_value (finite _ (List.getElem_mem inside))]
  · rw [averages, sampleValue_getElem ℚ _ (by simpa using inside), List.getElem_map,
      List.getElem_range]

theorem neighbourMean_between {i : Nat} (inside : i < samples.length) (windowSize : Nat) :
    Between samples (neighbourMean samples windowSize i) := by
  obtain ⟨⟨low, lowInside, above⟩, high, highInside, below⟩ :=
    centredMean_between (sampleValue ℚ samples) inside (windowSize / 2)
  rw [sampleValue_getElem ℚ samples lowInside] at above
  rw [sampleValue_getElem ℚ samples highInside] at below
  exact ⟨⟨_, List.getElem_mem lowInside, above⟩, _, List.getElem_mem highInside, below⟩

/-- A cast to float does not leave the samples' range. -/
theorem Between.ofExact {x : ℚ} (finite : AllFinite samples) (between : Between samples x) :
    Between samples ((Binary32.ofExact x).value ℚ) := by
  obtain ⟨⟨low, lowMember, above⟩, high, highMember, below⟩ := between
  obtain ⟨kept, also⟩ :=
    Binary32.ofExact_between (finite low lowMember) (finite high highMember) above below
  exact ⟨⟨low, lowMember, kept⟩, high, highMember, also⟩

theorem averages_reverse (samples : List Binary32) (windowSize : Nat) :
    averages samples.reverse windowSize = (averages samples windowSize).reverse := by
  refine List.ext_getElem (by simp [averages]) ?_
  intro i left right
  have inside : i < samples.length := by simpa [averages] using left
  have mean : neighbourMean samples.reverse windowSize i =
      neighbourMean samples windowSize (samples.length - 1 - i) := by
    rw [neighbourMean, neighbourMean, List.length_reverse]
    exact centredMean_reflect (fun j below => sampleValue_reverse ℚ samples below) inside _
  simp only [averages, List.getElem_reverse, List.getElem_map, List.getElem_range,
    List.length_map, List.length_range]
  rw [mean]

theorem movingAverageFilter_centred (finite : AllFinite samples) (short : samples.length < 2 ^ 62)
    (odd : windowSize % 2 = 1) (word : windowSize < UInt64.size) :
    ∃ filtered, CentredAverage samples windowSize filtered := by
  have computed := movingAverageFilter_eq finite short odd word
  have sound := sound_movingAverageFilter finite short odd word
  obtain ⟨filtered, same, length, filteredFinite⟩ := movingAverageFilter_finite finite odd
  have outputs : filtered = if windowSize = 1 then samples else averages samples windowSize :=
    Except.ok.inj (same.symm.trans computed)
  have mean : ∀ i < samples.length, sampleValue ℚ filtered i =
      (Binary32.ofExact (neighbourMean samples windowSize i)).value ℚ := by
    intro i inside
    rw [outputs]
    exact sampleValue_filtered finite inside
  refine ⟨filtered,
    { computed := same
      sound := same ▸ sound
      length
      mean
      meanBetween := fun i inside => neighbourMean_between inside windowSize
      between := ?_
      finite := filteredFinite
      mirrored := ?_ }⟩
  · intro i inside
    rw [mean i inside]
    exact (neighbourMean_between inside windowSize).ofExact finite
  · rw [movingAverageFilter_eq finite.reverse (by simpa using short) odd word, outputs]
    split
    · rfl
    · rw [averages_reverse]

/-- **The centred moving average is well behaved** on finite samples, with every odd
window `size_t` has, and it is what the station shows as the filtered signal. -/
theorem movingAverage_centred (finite : AllFinite samples) (short : samples.length < 2 ^ 62)
    (odd : windowSize % 2 = 1) (word : windowSize < UInt64.size) :
    ∃ filtered, CentredAverage samples windowSize filtered ∧
      ∀ (options : Options) (signal : SignalBlockPayload),
        options.signalFilter = .movingAverage → options.movingAverageWindow = windowSize →
        signal.samples = samples → applyFilter options signal = .ok filtered := by
  obtain ⟨filtered, centred⟩ := movingAverageFilter_centred finite short odd word
  refine ⟨filtered, centred, ?_⟩
  intro options signal mode window block
  rw [applyFilter, mode, window, block]
  exact centred.computed

end Filter

/-- One and four, and the widest window there is. -/
theorem movingAverage_centred_widest :
    ∃ filtered, CentredAverage [⟨0x3F800000⟩, ⟨0x40800000⟩] (2 ^ 64 - 1) filtered ∧
      ∀ (options : Options) (signal : SignalBlockPayload),
        options.signalFilter = .movingAverage → options.movingAverageWindow = 2 ^ 64 - 1 →
        signal.samples = [⟨0x3F800000⟩, ⟨0x40800000⟩] →
        applyFilter options signal = .ok filtered :=
  movingAverage_centred (by simp [AllFinite]; decide) (by decide) (by decide) (by decide)

end Stgs.Station
