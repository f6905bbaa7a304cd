/-
# Wire.Binary32 -- the value of a float, and the cast to float

`Binary32.value` is the number a pattern stands for, in any ordered field:
`static_cast<double>(x)`, which is exact.  `Binary32.ofExact` is
`static_cast<float>(v)` of an exact value: the nearest pattern, ties to even, and
the infinity of its sign when the magnitude exceeds the largest float.
`ofExact_isFinite` is the fact the signal filters depend on; `ofExact_between` says
that a cast does not leave an interval that floats bound.
-/
import Stgs.Theory.BinaryFormat
import Stgs.Wire.ByteUtils

namespace Stgs.Wire

open Stgs.Theory

set_option autoImplicit false

universe u

/-- IEEE-754 binary32. -/
def binary32 : BinaryFormat where
  fraction := 23
  bias := 127
  top := 255
  two_le_top := by decide

/-- The bit above the exponent field. -/
def signBit : Nat := 2 ^ 31

/-- `std::numeric_limits<float>::max()`. -/
def floatMax (K : Type u) [Field K] : K := binary32.largest K

theorem floatMax_pos (K : Type u) [Field K] [LinearOrder K] [IsStrictOrderedRing K] :
    0 < floatMax K :=
  binary32.largest_pos

theorem floatMax_ratCast (K : Type u) [Field K] [LinearOrder K] [IsStrictOrderedRing K] :
    ((floatMax ℚ : ℚ) : K) = floatMax K := by
  rw [floatMax, floatMax, BinaryFormat.largest, BinaryFormat.largest,
    binary32.magnitude_ratCast]

namespace Binary32

variable {K : Type u} [Field K] [LinearOrder K] [IsStrictOrderedRing K] [FloorRing K]

/-- The value of a finite float. -/
def value (K : Type u) [Field K] (float : Binary32) : K :=
  if float.bits.toNat < signBit then binary32.magnitude K float.bits.toNat
  else -binary32.magnitude K (float.bits.toNat - signBit)

/-- `static_cast<float>` of an exact value. -/
def ofExact (x : K) : Binary32 :=
  let pattern := if floatMax K < |x| then binary32.infinity else binary32.round |x|
  ⟨UInt32.ofNat (if x < 0 then signBit + pattern else pattern)⟩

/-- Finiteness is a bound on the pattern below the sign. -/
theorem isFinite_iff (float : Binary32) :
    float.isFinite = true ↔ float.bits.toNat % signBit < binary32.infinity := by
  have bound := float.bits.toNat_lt
  have field : float.exponentField.toNat = float.bits.toNat / 2 ^ 23 % 2 ^ 8 := by
    have mask : (0xFF : UInt32).toNat = 2 ^ 8 - 1 := rfl
    have shift : (23 : UInt32).toNat % 32 = 23 := rfl
    rw [exponentField, UInt32.toNat_and, mask, Nat.and_two_pow_sub_one_eq_mod,
      UInt32.toNat_shiftRight, shift, Nat.shiftRight_eq_div_pow]
  have ones : float.exponentField = 0xFF ↔ float.bits.toNat / 2 ^ 23 % 2 ^ 8 = 255 := by
    rw [← field, ← UInt32.toNat_inj]
    rfl
  have infinity : binary32.infinity = 255 * 2 ^ 23 := rfl
  rw [isFinite, bne_iff_ne, ne_eq, ones, infinity, signBit]
  omega

omit [IsStrictOrderedRing K] in
theorem ofExact_pattern (x : K) : (ofExact x).bits.toNat % signBit =
    (if floatMax K < |x| then binary32.infinity else binary32.round |x|) % signBit := by
  have wide : (2 : Nat) ^ 32 = signBit * 2 := rfl
  simp only [ofExact, UInt32.toNat_ofNat', wide]
  split <;> simp

/-- **A cast is finite exactly up to the largest float.** -/
theorem ofExact_isFinite (x : K) : (ofExact x).isFinite = true ↔ |x| ≤ floatMax K := by
  have infinity : binary32.infinity < signBit := by decide
  rw [isFinite_iff, ofExact_pattern]
  split
  · rename_i large
    rw [Nat.mod_eq_of_lt infinity]
    exact iff_of_false (lt_irrefl _) (not_le.mpr large)
  · rename_i fits
    have bound := binary32.round_lt_infinity (not_lt.mp fits)
    rw [Nat.mod_eq_of_lt (bound.trans infinity)]
    exact iff_of_true bound (not_lt.mp fits)

omit [FloorRing K] in
/-- A finite float is no larger than the largest one. -/
theorem abs_value_le {float : Binary32} (finite : float.isFinite = true) :
    |float.value K| ≤ floatMax K := by
  have pattern := (isFinite_iff float).mp finite
  have wide : (2 : Nat) ^ 32 = signBit * 2 := rfl
  have bound := float.bits.toNat_lt
  unfold value
  split
  · rename_i positive
    rw [Nat.mod_eq_of_lt positive] at pattern
    rw [abs_of_nonneg (binary32.magnitude_nonneg _)]
    exact binary32.magnitude_le_largest pattern
  · rw [Nat.mod_eq_sub_mod (by omega), Nat.mod_eq_of_lt (by omega)] at pattern
    rw [abs_neg, abs_of_nonneg (binary32.magnitude_nonneg _)]
    exact binary32.magnitude_le_largest pattern

omit [FloorRing K] in
/-- The value of a float does not depend on the field. -/
theorem value_ratCast (float : Binary32) : ((float.value ℚ : ℚ) : K) = float.value K := by
  unfold value
  split
  · exact binary32.magnitude_ratCast _
  · rw [Rat.cast_neg, binary32.magnitude_ratCast]

/-! ## The order of floats -/

theorem value_ofExact {x : K} (fits : |x| ≤ floatMax K) :
    (ofExact x).value K =
      if x < 0 then -binary32.magnitude K (binary32.round |x|)
      else binary32.magnitude K (binary32.round |x|) := by
  have infinity : binary32.infinity < signBit := by decide
  have pattern : binary32.round |x| < signBit := (binary32.round_lt_infinity fits).trans infinity
  have wide : (2 : Nat) ^ 32 = signBit * 2 := rfl
  simp only [ofExact, value, if_neg (not_lt.mpr fits), UInt32.toNat_ofNat', wide]
  split
  · rw [Nat.mod_eq_of_lt (by omega), if_neg (by omega), Nat.add_sub_cancel_left]
  · rw [Nat.mod_eq_of_lt (by omega), if_pos pattern]

/-- Casts keep the order. -/
theorem value_ofExact_mono {x y : K} (order : x ≤ y) (left : |x| ≤ floatMax K)
    (right : |y| ≤ floatMax K) : (ofExact x).value K ≤ (ofExact y).value K := by
  have nonneg (z : K) : 0 ≤ binary32.magnitude K (binary32.round |z|) :=
    binary32.magnitude_nonneg _
  rw [value_ofExact left, value_ofExact right]
  rcases lt_or_ge x 0 with negative | positive
  · rw [if_pos negative]
    rcases lt_or_ge y 0 with both | apart
    · rw [if_pos both, neg_le_neg_iff]
      apply binary32.magnitude_mono
      apply binary32.round_mono
      rw [abs_of_neg both, abs_of_neg negative]
      exact neg_le_neg order
    · rw [if_neg (not_lt.mpr apart)]
      exact (neg_nonpos.mpr (nonneg x)).trans (nonneg y)
  · rw [if_neg (not_lt.mpr positive), if_neg (not_lt.mpr (positive.trans order))]
    apply binary32.magnitude_mono
    apply binary32.round_mono
    rwa [abs_of_nonneg positive, abs_of_nonneg (positive.trans order)]

/-- The value of a float is cast to that value; the sign of a zero may be lost. -/
theorem value_ofExact_value {float : Binary32} (finite : float.isFinite = true) :
    (ofExact (float.value K)).value K = float.value K := by
  have nonneg (pattern : Nat) : 0 ≤ binary32.magnitude K pattern :=
    binary32.magnitude_nonneg pattern
  rw [value_ofExact (abs_value_le finite)]
  unfold value
  by_cases positive : float.bits.toNat < signBit
  · rw [if_pos positive, abs_of_nonneg (nonneg _), if_neg (not_lt.mpr (nonneg _)),
      binary32.round_magnitude]
  · rw [if_neg positive, abs_neg, abs_of_nonneg (nonneg _), binary32.round_magnitude]
    split
    · rfl
    · rename_i zero
      have none : binary32.magnitude K (float.bits.toNat - signBit) = 0 :=
        le_antisymm (neg_nonneg.mp (not_lt.mp zero)) (nonneg _)
      rw [none, neg_zero]

/-- **A cast stays between the floats its argument is between.** -/
theorem ofExact_between {low high : Binary32} (lowFinite : low.isFinite = true)
    (highFinite : high.isFinite = true) {x : K} (above : low.value K ≤ x)
    (below : x ≤ high.value K) :
    low.value K ≤ (ofExact x).value K ∧ (ofExact x).value K ≤ high.value K := by
  have lowFits := abs_value_le (K := K) lowFinite
  have highFits := abs_value_le (K := K) highFinite
  have fits : |x| ≤ floatMax K :=
    abs_le.mpr ⟨(abs_le.mp lowFits).1.trans above, below.trans (abs_le.mp highFits).2⟩
  constructor
  · rw [← value_ofExact_value (K := K) lowFinite]
    exact value_ofExact_mono above lowFits fits
  · rw [← value_ofExact_value (K := K) highFinite]
    exact value_ofExact_mono below fits highFits

/-! ## The error of a cast -/

/-- Half a unit in the last place of a value, or of the least one. -/
def roundoff (x : K) : K := |x| * binary32.scaled K 1 (-1) + binary32.scaled K 1 (-127)

omit [FloorRing K] in
theorem roundoff_nonneg (x : K) : 0 ≤ roundoff x := by
  have unit (binade : ℤ) : 0 < binary32.scaled K 1 binade := binary32.scaled_pos Nat.one_pos binade
  exact add_nonneg (mul_nonneg (abs_nonneg x) (unit _).le) (unit _).le

/-- **A cast is off by a rounding error.** -/
theorem abs_value_ofExact_sub_le {x : K} (fits : |x| ≤ floatMax K) :
    |(ofExact x).value K - x| ≤ roundoff x := by
  have magnitudes : abs (binary32.magnitude K (binary32.round |x|) - |x|) ≤ roundoff x := by
    rcases eq_or_ne x 0 with rfl | nonzero
    · have zero : binary32.magnitude K (binary32.round |(0 : K)|) = 0 := by
        simp [BinaryFormat.round, BinaryFormat.magnitude, BinaryFormat.scaled]
      rw [zero, abs_zero, sub_zero, abs_zero]
      exact roundoff_nonneg 0
    · have positive : 0 < |x| := abs_pos.mpr nonzero
      have units := binary32.zpow_binade_le positive
      have halves (e : ℤ) : (2 : K) ^ e / 2 = (2 : K) ^ (e - 1) := by
        rw [zpow_sub_one₀ two_ne_zero, div_eq_mul_inv]
      calc _ ≤ (2 : K) ^ (binary32.binade |x| - 23) / 2 :=
            binary32.abs_magnitude_round_sub_le positive
        _ ≤ (|x| * (2 : K) ^ (-(23 : ℤ)) + (2 : K) ^ (1 - (127 : ℤ) - 23)) / 2 :=
            div_le_div_of_nonneg_right units two_pos.le
        _ = roundoff x := by
            rw [add_div, mul_div_assoc, halves, halves, roundoff, BinaryFormat.scaled,
              BinaryFormat.scaled, Nat.cast_one, one_mul, one_mul]
            rfl
  rw [value_ofExact fits]
  rcases lt_or_ge x 0 with negative | positive
  · rw [if_pos negative]
    rw [abs_of_neg negative] at magnitudes ⊢
    rw [← abs_neg]
    convert magnitudes using 2
    ring
  · rw [if_neg (not_lt.mpr positive)]
    rwa [abs_of_nonneg positive] at magnitudes ⊢

variable (K) in
omit [FloorRing K] in
theorem value_eq_zero_iff (float : Binary32) : float.value K = 0 ↔ float.value ℚ = 0 := by
  rw [← value_ratCast (K := K), Rat.cast_eq_zero]

end Binary32

end Stgs.Wire
