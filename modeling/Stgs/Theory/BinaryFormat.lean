/-
# Theory.BinaryFormat -- the patterns of a binary floating-point format

The nonnegative values of an IEEE-style format are its bit patterns in order:
`fraction` low bits, an exponent field above them, `top` (all ones) marking what
is not finite.  `magnitude` is the value of a pattern in an ordered field, and
`round` the pattern nearest to a value, ties to even, gradual underflow included.
A mantissa that rounds up to the next power of two carries into the exponent
field by itself, so `round` is one sum.

`round_magnitude` says that a finite pattern is what its value rounds to,
`round_lt_infinity` that the values up to `largest` round to finite patterns, and
`round_mono` that rounding keeps the order.
-/
import Mathlib.Data.Int.Log
import Mathlib.Tactic.Ring
import Mathlib.Tactic.FieldSimp
import Mathlib.Tactic.Linarith
import Mathlib.Tactic.Positivity

namespace Stgs.Theory

set_option autoImplicit false

universe u

/-- Fraction width, exponent bias and the exponent field that is not finite. -/
structure BinaryFormat where
  fraction : Nat
  bias : Nat
  top : Nat
  two_le_top : 2 ≤ top

namespace BinaryFormat

variable (format : BinaryFormat) {K : Type u} [Field K] [LinearOrder K] [IsStrictOrderedRing K]
  [FloorRing K]

/-- The first pattern that is not finite. -/
def infinity : Nat := format.top * 2 ^ format.fraction

/-- A mantissa, in units of the last place of a binade. -/
def scaled (K : Type u) [Field K] (mantissa : Nat) (binade : ℤ) : K :=
  mantissa * (2 : K) ^ (binade - format.fraction)

/-- The value of a finite pattern. -/
def magnitude (K : Type u) [Field K] (pattern : Nat) : K :=
  if pattern / 2 ^ format.fraction = 0 then format.scaled K pattern (1 - format.bias)
  else
    format.scaled K (2 ^ format.fraction + pattern % 2 ^ format.fraction)
      ((pattern / 2 ^ format.fraction : Nat) - (format.bias : ℤ))

/-- The largest finite value. -/
def largest (K : Type u) [Field K] : K := format.magnitude K (format.infinity - 1)

/-- The nearest natural number, ties to even. -/
def roundHalfEven (x : K) : Nat :=
  let below := ⌊x⌋₊
  if x - below < 1 / 2 then below
  else if 1 / 2 < x - below then below + 1
  else if below % 2 = 0 then below else below + 1

/-- The exponent a value is rounded at: its own, or the least one. -/
def binade (x : K) : ℤ := max (Int.log 2 x) (1 - format.bias)

/-- The nearest pattern, ties to even. -/
def round (x : K) : Nat :=
  if x ≤ 0 then 0
  else
    roundHalfEven (x / (2 : K) ^ (format.binade x - format.fraction)) +
      (format.binade x + format.bias - 1).toNat * 2 ^ format.fraction

/-! ## Rounding to a natural number -/

theorem roundHalfEven_natCast (n : Nat) : roundHalfEven (n : K) = n := by
  simp [roundHalfEven]

theorem roundHalfEven_le {x : K} {n : Nat} (bound : x ≤ n) : roundHalfEven x ≤ n := by
  have below : ⌊x⌋₊ ≤ n := Nat.floor_le_of_le bound
  rcases Nat.lt_or_ge ⌊x⌋₊ n with less | equal
  · unfold roundHalfEven
    simp only
    split_ifs <;> omega
  · have floor : ⌊x⌋₊ = n := le_antisymm below equal
    have small : x - (⌊x⌋₊ : K) < 1 / 2 := by
      rw [floor]
      have : x - n ≤ 0 := sub_nonpos.mpr bound
      have : (0 : K) < 1 / 2 := by positivity
      linarith
    unfold roundHalfEven
    rw [if_pos small, floor]

omit [IsStrictOrderedRing K] in
/-- The natural number below, or the next one. -/
theorem roundHalfEven_floor (x : K) : ⌊x⌋₊ ≤ roundHalfEven x ∧ roundHalfEven x ≤ ⌊x⌋₊ + 1 := by
  unfold roundHalfEven
  simp only
  split_ifs <;> omega

omit [IsStrictOrderedRing K] in
theorem le_roundHalfEven {x : K} {n : Nat} (bound : (n : K) ≤ x) : n ≤ roundHalfEven x :=
  (Nat.le_floor bound).trans (roundHalfEven_floor x).1

theorem roundHalfEven_mono {x y : K} (order : x ≤ y) : roundHalfEven x ≤ roundHalfEven y := by
  rcases Nat.lt_or_eq_of_le (Nat.floor_mono order) with less | same
  · calc roundHalfEven x ≤ ⌊x⌋₊ + 1 := (roundHalfEven_floor x).2
      _ ≤ ⌊y⌋₊ := less
      _ ≤ roundHalfEven y := (roundHalfEven_floor y).1
  · -- one floor: the distance above it decides, and its parity is shared
    have apart : x - (⌊y⌋₊ : K) ≤ y - ⌊y⌋₊ := sub_le_sub_right order _
    unfold roundHalfEven
    simp only [same]
    split_ifs <;> first | omega | linarith

/-! ## Rounding to a pattern -/

omit [FloorRing K] in
theorem scaled_pos {mantissa : Nat} (positive : 0 < mantissa) (binade : ℤ) :
    0 < format.scaled K mantissa binade :=
  mul_pos (Nat.cast_pos.mpr positive) (zpow_pos two_pos _)

omit [LinearOrder K] [IsStrictOrderedRing K] [FloorRing K] in
theorem scaled_pow (binade : ℤ) (two : (2 : K) ≠ 0) :
    format.scaled K (2 ^ format.fraction) binade = (2 : K) ^ binade := by
  rw [scaled, Nat.cast_pow, Nat.cast_ofNat, ← zpow_natCast, ← zpow_add₀ two]
  congr 1
  ring

omit [FloorRing K] in
theorem scaled_lt_scaled {m n : Nat} (below : m < n) (binade : ℤ) :
    format.scaled K m binade < format.scaled K n binade :=
  mul_lt_mul_of_pos_right (Nat.cast_lt.mpr below) (zpow_pos two_pos _)

omit [FloorRing K] in
theorem scaled_le_scaled {m n : Nat} (below : m ≤ n) (binade : ℤ) :
    format.scaled K m binade ≤ format.scaled K n binade :=
  mul_le_mul_of_nonneg_right (Nat.cast_le.mpr below) (zpow_pos two_pos _).le

/-- The binade of a mantissa with its leading bit set. -/
theorem log_scaled {mantissa : Nat} (low : 2 ^ format.fraction ≤ mantissa)
    (high : mantissa < 2 ^ (format.fraction + 1)) (binade : ℤ) :
    Int.log 2 (format.scaled K mantissa binade) = binade := by
  have two : (2 : K) ≠ 0 := two_ne_zero
  have positive : 0 < format.scaled K mantissa binade :=
    format.scaled_pos (lt_of_lt_of_le (Nat.two_pow_pos _) low) binade
  refine le_antisymm (Int.lt_add_one_iff.mp ?_) ?_
  · refine (Int.lt_zpow_iff_log_lt (by decide) positive).mp ?_
    have double : format.scaled K (2 ^ (format.fraction + 1)) binade = (2 : K) ^ (binade + 1) := by
      rw [zpow_add_one₀ two, ← format.scaled_pow binade two, scaled, scaled, pow_succ]
      push_cast
      ring
    rw [Nat.cast_ofNat, ← double]
    exact format.scaled_lt_scaled high binade
  · refine (Int.zpow_le_iff_le_log (by decide) positive).mp ?_
    rw [Nat.cast_ofNat, ← format.scaled_pow binade two]
    exact format.scaled_le_scaled low binade

omit [IsStrictOrderedRing K] in
/-- Rounding in a known binade. -/
theorem round_of_binade {x : K} (positive : 0 < x) {e : ℤ} (binade : format.binade x = e) :
    format.round x = roundHalfEven (x / (2 : K) ^ (e - format.fraction)) +
      (e + format.bias - 1).toNat * 2 ^ format.fraction := by
  rw [round, if_neg (not_le.mpr positive), binade]

/-- A value in units of the last place of its binade loses nothing. -/
theorem round_scaled {mantissa : Nat} (positive : 0 < mantissa) {e : ℤ}
    (binade : format.binade (format.scaled K mantissa e) = e) :
    format.round (format.scaled K mantissa e) =
      mantissa + (e + format.bias - 1).toNat * 2 ^ format.fraction := by
  have units : format.scaled K mantissa e / (2 : K) ^ (e - format.fraction) = mantissa :=
    mul_div_cancel_right₀ _ (zpow_pos two_pos _).ne'
  rw [format.round_of_binade (format.scaled_pos positive e) binade, units, roundHalfEven_natCast]

/-- **A finite pattern is what its value rounds to.** -/
theorem round_magnitude (pattern : Nat) : format.round (format.magnitude K pattern) = pattern := by
  have two : (2 : K) ≠ 0 := two_ne_zero
  unfold magnitude
  split
  · rename_i subnormal
    rcases Nat.eq_zero_or_pos pattern with rfl | positive
    · simp [round, scaled]
    have below : pattern < 2 ^ format.fraction :=
      (Nat.div_eq_zero_iff.mp subnormal).resolve_left (Nat.two_pow_pos _).ne'
    have binade : format.binade (format.scaled K pattern (1 - format.bias)) = 1 - format.bias := by
      refine max_eq_right (le_of_lt ?_)
      refine (Int.lt_zpow_iff_log_lt (by decide) (format.scaled_pos positive _)).mp ?_
      rw [Nat.cast_ofNat, ← format.scaled_pow _ two]
      exact format.scaled_lt_scaled below _
    have none : (1 - (format.bias : ℤ) + format.bias - 1).toNat = 0 := by omega
    rw [format.round_scaled positive binade, none, Nat.zero_mul, Nat.add_zero]
  · rename_i normal
    have mantissa : pattern % 2 ^ format.fraction < 2 ^ format.fraction :=
      Nat.mod_lt _ (Nat.two_pow_pos _)
    have field : 0 < pattern / 2 ^ format.fraction := Nat.pos_of_ne_zero normal
    have log := format.log_scaled (K := K) (Nat.le_add_right _ _)
      (show 2 ^ format.fraction + pattern % 2 ^ format.fraction < 2 ^ (format.fraction + 1) by
        rw [pow_succ]
        omega)
      ((pattern / 2 ^ format.fraction : Nat) - (format.bias : ℤ))
    have binade := (max_eq_left (by rw [log]; omega) : format.binade _ = _).trans log
    have exponent : ((pattern / 2 ^ format.fraction : Nat) - (format.bias : ℤ) + format.bias -
        1).toNat = pattern / 2 ^ format.fraction - 1 := by omega
    rw [format.round_scaled (Nat.add_pos_left (Nat.two_pow_pos _) _) binade, exponent,
      Nat.sub_mul, Nat.one_mul]
    have parts := Nat.div_add_mod' pattern (2 ^ format.fraction)
    have := Nat.le_mul_of_pos_left (2 ^ format.fraction) field
    omega

omit [LinearOrder K] [IsStrictOrderedRing K] [FloorRing K] in
theorem largest_eq : format.largest K =
    format.scaled K (2 ^ (format.fraction + 1) - 1) (format.top - 1 - format.bias) := by
  have top := format.two_le_top
  have unit : 0 < 2 ^ format.fraction := Nat.two_pow_pos _
  have shape : format.infinity - 1 =
      (2 ^ format.fraction - 1) + 2 ^ format.fraction * (format.top - 1) := by
    have : format.top = format.top - 1 + 1 := by omega
    rw [infinity, this, Nat.add_mul, Nat.mul_comm (2 ^ format.fraction)]
    simp only [Nat.add_sub_cancel]
    omega
  have field : (format.infinity - 1) / 2 ^ format.fraction = format.top - 1 := by
    rw [shape, Nat.add_mul_div_left _ _ unit, Nat.div_eq_of_lt (by omega), Nat.zero_add]
  have rest : (format.infinity - 1) % 2 ^ format.fraction = 2 ^ format.fraction - 1 := by
    rw [shape, Nat.add_mul_mod_self_left, Nat.mod_eq_of_lt (by omega)]
  have mantissa : 2 ^ format.fraction + (2 ^ format.fraction - 1) =
      2 ^ (format.fraction + 1) - 1 := by
    rw [pow_succ]
    omega
  have exponent : ((format.top - 1 : Nat) : ℤ) = format.top - 1 := by omega
  rw [largest, magnitude, field, if_neg (by omega), rest, mantissa, exponent]

omit [FloorRing K] in
theorem largest_pos : 0 < format.largest K := by
  have wide : 2 ≤ 2 ^ (format.fraction + 1) := by
    rw [pow_succ]
    have := Nat.two_pow_pos format.fraction
    omega
  rw [largest_eq]
  exact format.scaled_pos (by omega) _

omit [FloorRing K] in
theorem magnitude_nonneg (pattern : Nat) : 0 ≤ format.magnitude K pattern := by
  have scaled_nonneg (mantissa : Nat) (binade : ℤ) : 0 ≤ format.scaled K mantissa binade :=
    mul_nonneg (Nat.cast_nonneg _) (zpow_pos two_pos _).le
  unfold magnitude
  split
  · exact scaled_nonneg _ _
  · exact scaled_nonneg _ _

omit [FloorRing K] in
/-- The value of a pattern does not depend on the field. -/
theorem magnitude_ratCast (pattern : Nat) :
    ((format.magnitude ℚ pattern : ℚ) : K) = format.magnitude K pattern := by
  have scaled_ratCast (mantissa : Nat) (binade : ℤ) :
      ((format.scaled ℚ mantissa binade : ℚ) : K) = format.scaled K mantissa binade := by
    rw [scaled, scaled, Rat.cast_mul, Rat.cast_natCast, Rat.cast_zpow, Rat.cast_ofNat]
  unfold magnitude
  split
  · exact scaled_ratCast _ _
  · exact scaled_ratCast _ _

omit [FloorRing K] in
/-- Finite patterns stand for values up to the largest one. -/
theorem magnitude_le_largest {pattern : Nat} (finite : pattern < format.infinity) :
    format.magnitude K pattern ≤ format.largest K := by
  have top := format.two_le_top
  have unit : 0 < 2 ^ format.fraction := Nat.two_pow_pos _
  have double : 2 ^ (format.fraction + 1) = 2 * 2 ^ format.fraction := by rw [pow_succ, Nat.mul_comm]
  have bound {mantissa : Nat} {binade : ℤ} (small : mantissa ≤ 2 ^ (format.fraction + 1) - 1)
      (low : binade ≤ format.top - 1 - format.bias) :
      format.scaled K mantissa binade ≤ format.largest K := by
    refine (format.scaled_le_scaled small binade).trans ?_
    rw [largest_eq]
    refine mul_le_mul_of_nonneg_left ?_ (Nat.cast_nonneg _)
    exact zpow_le_zpow_right₀ one_le_two (by omega)
  unfold magnitude
  split
  · rename_i subnormal
    have below : pattern < 2 ^ format.fraction :=
      (Nat.div_eq_zero_iff.mp subnormal).resolve_left unit.ne'
    exact bound (by omega) (by omega)
  · have mantissa : pattern % 2 ^ format.fraction < 2 ^ format.fraction := Nat.mod_lt _ unit
    have field : pattern / 2 ^ format.fraction < format.top :=
      (Nat.div_lt_iff_lt_mul unit).mpr finite
    exact bound (by omega) (by omega)

omit [FloorRing K] in
theorem zpow_succ_eq (e : ℤ) :
    (2 : K) ^ (e + 1) = (2 ^ (format.fraction + 1) : Nat) * (2 : K) ^ (e - format.fraction) := by
  have two : (2 : K) ≠ 0 := two_ne_zero
  rw [zpow_add_one₀ two, ← format.scaled_pow e two, scaled, pow_succ]
  push_cast
  ring

/-! ## The order of values and patterns -/

theorem binade_mono {x y : K} (positive : 0 < x) (order : x ≤ y) :
    format.binade x ≤ format.binade y :=
  max_le_max_right _ (Int.log_mono_right positive order)

theorem lt_zpow_binade (x : K) : x < (2 : K) ^ (format.binade x + 1) := by
  have own := Int.lt_zpow_succ_log_self (R := K) (b := 2) (by decide) x
  rw [Nat.cast_ofNat] at own
  have log : Int.log 2 x ≤ format.binade x := le_max_left _ _
  exact lt_of_lt_of_le own (zpow_le_zpow_right₀ one_le_two (by omega))

/-- A mantissa rounds up to the next power of two at most. -/
theorem mantissa_le (x : K) :
    roundHalfEven (x / (2 : K) ^ (format.binade x - format.fraction)) ≤
      2 ^ (format.fraction + 1) := by
  apply roundHalfEven_le
  rw [div_le_iff₀ (zpow_pos two_pos _), ← format.zpow_succ_eq]
  exact (format.lt_zpow_binade x).le

/-- A mantissa above the least binade has its leading bit set. -/
theorem le_mantissa {x : K} (positive : 0 < x) (normal : 1 - (format.bias : ℤ) < format.binade x) :
    2 ^ format.fraction ≤ roundHalfEven (x / (2 : K) ^ (format.binade x - format.fraction)) := by
  have two : (2 : K) ≠ 0 := two_ne_zero
  have own : format.binade x = Int.log 2 x := by
    refine max_eq_left (le_of_lt ?_)
    simpa [binade] using normal
  have low := Int.zpow_log_le_self (R := K) (b := 2) (by decide) positive
  apply le_roundHalfEven
  rw [le_div_iff₀ (zpow_pos two_pos _), own]
  rw [Nat.cast_ofNat, ← format.scaled_pow _ two] at low
  exact low

/-- **Rounding keeps the order**, also across binades: a carry reaches the first
pattern of the next one and no further. -/
theorem round_mono {x y : K} (order : x ≤ y) : format.round x ≤ format.round y := by
  rcases le_or_gt x 0 with none | positive
  · rw [round, if_pos none]
    exact Nat.zero_le _
  have least : 1 - (format.bias : ℤ) ≤ format.binade x := le_max_right _ _
  have binades := format.binade_mono positive order
  rw [format.round_of_binade positive rfl, format.round_of_binade (positive.trans_le order) rfl]
  rcases lt_or_eq_of_le binades with less | same
  · have low := format.mantissa_le x
    have high := format.le_mantissa (positive.trans_le order) (least.trans_lt less)
    have exponents : (format.binade x + format.bias - 1).toNat + 1 ≤
        (format.binade y + format.bias - 1).toNat := by omega
    have units := Nat.mul_le_mul_right (2 ^ format.fraction) exponents
    rw [pow_succ] at low
    rw [Nat.add_mul, Nat.one_mul] at units
    omega
  · rw [same]
    apply Nat.add_le_add_right
    exact roundHalfEven_mono (div_le_div_of_nonneg_right order (zpow_pos two_pos _).le)

/-- Patterns are ordered as their values are. -/
theorem magnitude_mono {low high : Nat} (order : low ≤ high) :
    format.magnitude K low ≤ format.magnitude K high := by
  by_contra reversed
  rw [not_le] at reversed
  have rounded := format.round_mono reversed.le
  rw [format.round_magnitude, format.round_magnitude] at rounded
  rw [le_antisymm order rounded] at reversed
  exact lt_irrefl _ reversed

/-- **Values up to the largest finite one round to finite patterns.** -/
theorem round_lt_infinity {x : K} (bound : x ≤ format.largest K) :
    format.round x < format.infinity := by
  have top := format.two_le_top
  have positive : 0 < format.infinity := Nat.mul_pos (by omega) (Nat.two_pow_pos _)
  have rounded := format.round_mono bound
  rw [largest, format.round_magnitude] at rounded
  omega

/-! ## The error of rounding -/

theorem abs_roundHalfEven_sub_le {x : K} (nonneg : 0 ≤ x) : |(roundHalfEven x : K) - x| ≤ 1 / 2 := by
  have low := Nat.floor_le nonneg
  have high := Nat.lt_floor_add_one x
  unfold roundHalfEven
  simp only
  split_ifs <;> rw [abs_le] <;> constructor <;> push_cast <;> linarith

/-- What a value is rounded to: a mantissa in its binade, which may carry. -/
theorem magnitude_round {x : K} (positive : 0 < x) : format.magnitude K (format.round x) =
    format.scaled K (roundHalfEven (x / (2 : K) ^ (format.binade x - format.fraction)))
      (format.binade x) := by
  have two : (2 : K) ≠ 0 := two_ne_zero
  have unit : 0 < 2 ^ format.fraction := Nat.two_pow_pos _
  have least : 1 - (format.bias : ℤ) ≤ format.binade x := le_max_right _ _
  have most := format.mantissa_le x
  have leading := format.le_mantissa positive
  rw [format.round_of_binade positive rfl]
  generalize format.binade x = e at least most leading ⊢
  generalize roundHalfEven (x / (2 : K) ^ (e - format.fraction)) = mantissa at most leading ⊢
  obtain ⟨field, exponent⟩ : ∃ field : Nat, (e + format.bias - 1).toNat = field ∧
      e = field + 1 - format.bias := ⟨(e + format.bias - 1).toNat, rfl, by omega⟩
  rw [exponent.1]
  rcases Nat.lt_or_ge mantissa (2 ^ format.fraction) with subnormal | normal
  · have none : field = 0 := by
      by_contra some
      have := leading (by omega)
      omega
    rw [none, Nat.zero_mul, Nat.add_zero, magnitude, if_pos (Nat.div_eq_of_lt subnormal),
      exponent.2, none, Nat.cast_zero, zero_add]
  rcases Nat.lt_or_ge mantissa (2 ^ (format.fraction + 1)) with inside | carry
  · rw [pow_succ] at inside
    have shape : mantissa + field * 2 ^ format.fraction =
        (mantissa - 2 ^ format.fraction) + 2 ^ format.fraction * (field + 1) := by
      rw [Nat.mul_add, Nat.mul_comm field]
      omega
    have quotient : (mantissa + field * 2 ^ format.fraction) / 2 ^ format.fraction = field + 1 := by
      rw [shape, Nat.add_mul_div_left _ _ unit, Nat.div_eq_of_lt (by omega), Nat.zero_add]
    have rest : (mantissa + field * 2 ^ format.fraction) % 2 ^ format.fraction =
        mantissa - 2 ^ format.fraction := by
      rw [shape, Nat.add_mul_mod_self_left, Nat.mod_eq_of_lt (by omega)]
    rw [magnitude, quotient, if_neg (by omega), rest, Nat.add_sub_cancel' normal, exponent.2]
    push_cast
    rfl
  · have full : mantissa = 2 ^ (format.fraction + 1) := le_antisymm most carry
    have shape : mantissa + field * 2 ^ format.fraction = 2 ^ format.fraction * (field + 2) := by
      rw [full, pow_succ, Nat.mul_add, Nat.mul_comm field]
      omega
    have double : format.scaled K (2 ^ (format.fraction + 1)) e = (2 : K) ^ (e + 1) := by
      rw [zpow_add_one₀ two, ← format.scaled_pow e two, scaled, scaled, pow_succ]
      push_cast
      ring
    rw [magnitude, shape, Nat.mul_div_cancel_left _ unit, if_neg (by omega), Nat.mul_mod_right,
      Nat.add_zero, format.scaled_pow _ two, full, double, exponent.2]
    congr 1
    push_cast
    ring

/-- **Half a unit in the last place.** -/
theorem abs_magnitude_round_sub_le {x : K} (positive : 0 < x) :
    |format.magnitude K (format.round x) - x| ≤
      (2 : K) ^ (format.binade x - format.fraction) / 2 := by
  have unit : (0 : K) < (2 : K) ^ (format.binade x - format.fraction) := zpow_pos two_pos _
  have rounded := abs_roundHalfEven_sub_le (div_nonneg positive.le unit.le)
  have scale : (roundHalfEven (x / (2 : K) ^ (format.binade x - format.fraction)) : K) *
        (2 : K) ^ (format.binade x - format.fraction) - x =
      ((roundHalfEven (x / (2 : K) ^ (format.binade x - format.fraction)) : K) -
        x / (2 : K) ^ (format.binade x - format.fraction)) *
          (2 : K) ^ (format.binade x - format.fraction) := by
    rw [sub_mul, div_mul_cancel₀ _ unit.ne']
  rw [format.magnitude_round positive, scaled, scale, abs_mul, abs_of_pos unit]
  calc _ ≤ 1 / 2 * (2 : K) ^ (format.binade x - format.fraction) :=
        mul_le_mul_of_nonneg_right rounded unit.le
    _ = _ := by ring

/-- A unit in the last place is relative to the value, or the least one. -/
theorem zpow_binade_le {x : K} (positive : 0 < x) :
    (2 : K) ^ (format.binade x - format.fraction) ≤
      x * (2 : K) ^ (-(format.fraction : ℤ)) + (2 : K) ^ (1 - (format.bias : ℤ) - format.fraction) := by
  have two : (2 : K) ≠ 0 := two_ne_zero
  have unit : (0 : K) < (2 : K) ^ (-(format.fraction : ℤ)) := zpow_pos two_pos _
  have low := Int.zpow_log_le_self (R := K) (b := 2) (by decide) positive
  rw [Nat.cast_ofNat] at low
  rcases max_cases (Int.log 2 x) (1 - (format.bias : ℤ)) with ⟨own, -⟩ | ⟨least, -⟩
  · rw [binade, own, sub_eq_add_neg, zpow_add₀ two]
    have first := mul_le_mul_of_nonneg_right low unit.le
    have second : (0 : K) < (2 : K) ^ (1 - (format.bias : ℤ) - format.fraction) := zpow_pos two_pos _
    linarith
  · rw [binade, least]
    have first := mul_pos positive unit
    linarith

end BinaryFormat

end Stgs.Theory
