/-
# Theory.Projection -- averages, and the projection on one frequency

The mean of numbers is no larger than they are (`abs_mean_le`), over any ordered
field.

The projection of a finite sequence on a constant, a sine and a cosine of one
frequency, evaluated at a point of the sequence, is a weighted mean of it: the
weight of a sample is `1 + 2 cos` of its phase distance (`reconstruct_eq`).  The
absolute phase cancels.  A weight is at most three, and three is reached, so the
reconstruction may be three times as large as the sequence (`abs_kernelMean_le`).
-/
import Mathlib

namespace Stgs.Theory.Projection

set_option autoImplicit false

open Finset

universe u

/-! ## Sums as loops -/

section Loops

variable {K : Type u} [AddCommMonoid K]

/-- A loop that adds `f first, ..., f (last - 1)` to a sum. -/
def loopSum (first last : Nat) (f : Nat → K) : K :=
  (List.range' first (last - first)).foldl (fun sum i => sum + f i) 0

theorem loopSum_eq (first last : Nat) (f : Nat → K) :
    loopSum first last f = ∑ i ∈ Ico first last, f i := by
  have step (count : Nat) : (List.range' first count).foldl (fun sum i => sum + f i) 0 =
      ∑ i ∈ Ico first (first + count), f i := by
    induction count with
    | zero => simp
    | succ count ih =>
        rw [List.range'_concat, List.foldl_append, ih, ← Nat.add_assoc,
          Finset.sum_Ico_succ_top (Nat.le_add_right _ _)]
        simp
  rw [loopSum, step]
  by_cases inOrder : first ≤ last
  · rw [Nat.add_sub_cancel' inOrder]
  · have empty : last - first = 0 := by omega
    rw [empty, Nat.add_zero, Ico_self, Ico_eq_empty_of_le (by omega)]

end Loops

/-! ## Means -/

section Means

variable {K : Type u} [Field K] [LinearOrder K] [IsStrictOrderedRing K]

theorem abs_sum_le {s : Finset Nat} {f : Nat → K} {bound : K} (each : ∀ i ∈ s, |f i| ≤ bound) :
    |∑ i ∈ s, f i| ≤ s.card * bound := by
  calc |∑ i ∈ s, f i| ≤ ∑ i ∈ s, |f i| := Finset.abs_sum_le_sum_abs f s
    _ ≤ s.card • bound := Finset.sum_le_card_nsmul s _ bound each
    _ = s.card * bound := nsmul_eq_mul _ _

/-- **A mean is no larger than what it is the mean of.** -/
theorem abs_mean_le {s : Finset Nat} {f : Nat → K} {bound : K} (nonneg : 0 ≤ bound)
    (each : ∀ i ∈ s, |f i| ≤ bound) : |(∑ i ∈ s, f i) / s.card| ≤ bound := by
  by_cases empty : s.card = 0
  · rw [empty, Nat.cast_zero, div_zero, abs_zero]
    exact nonneg
  · have positive : (0 : K) < s.card := Nat.cast_pos.mpr (Nat.pos_of_ne_zero empty)
    rw [abs_div, abs_of_pos positive, div_le_iff₀ positive, mul_comm]
    exact abs_sum_le each

end Means

/-! ## The projection -/

section Sinusoid

open Real

variable (x : Nat → ℝ) (count : Nat) (omega : ℝ)

/-- The mean of a sequence weighted by the phase distance to a point. -/
noncomputable def kernelMean (i : Nat) : ℝ :=
  (∑ j ∈ range count, x j * (1 + (2 : ℕ) * cos (omega * ((i : ℝ) - j)))) / count

/-- **What the projection gives back at a point**, whatever the phase the sequence
starts with. -/
theorem reconstruct_eq (start i : Nat) :
    (∑ j ∈ range count, x j) / count +
        2 * (∑ j ∈ range count, x j * sin (omega * (start + j : Nat))) / count *
          sin (omega * (start + i : Nat)) +
        2 * (∑ j ∈ range count, x j * cos (omega * (start + j : Nat))) / count *
          cos (omega * (start + i : Nat)) =
      kernelMean x count omega i := by
  have distance (j : Nat) : cos (omega * ((i : ℝ) - j)) =
      cos (omega * (start + i : Nat)) * cos (omega * (start + j : Nat)) +
        sin (omega * (start + i : Nat)) * sin (omega * (start + j : Nat)) := by
    rw [← cos_sub]
    congr 1
    push_cast
    ring
  have weights : ∑ j ∈ range count, x j * (1 + 2 * cos (omega * ((i : ℝ) - j))) =
      ∑ j ∈ range count, x j +
        2 * (∑ j ∈ range count, x j * sin (omega * (start + j : Nat))) *
          sin (omega * (start + i : Nat)) +
        2 * (∑ j ∈ range count, x j * cos (omega * (start + j : Nat))) *
          cos (omega * (start + i : Nat)) := by
    simp only [distance, Finset.mul_sum, Finset.sum_mul, ← Finset.sum_add_distrib]
    refine Finset.sum_congr rfl fun j _ => ?_
    ring
  rw [kernelMean, Nat.cast_ofNat, weights]
  ring

theorem abs_weight_le (phase : ℝ) : |1 + 2 * cos phase| ≤ 3 := by
  have low := neg_one_le_cos phase
  have high := cos_le_one phase
  rw [abs_le]
  constructor <;> linarith

/-- **The reconstruction is at most three times as large.** -/
theorem abs_kernelMean_le {bound : ℝ} (each : ∀ j < count, |x j| ≤ bound) (i : Nat)
    (inside : i < count) : |kernelMean x count omega i| ≤ 3 * bound := by
  have nonneg : 0 ≤ bound := (abs_nonneg (x i)).trans (each i inside)
  have weighted : ∀ j ∈ range count,
      |x j * (1 + 2 * cos (omega * ((i : ℝ) - j)))| ≤ 3 * bound := by
    intro j member
    rw [abs_mul, mul_comm 3 bound]
    exact mul_le_mul (each j (mem_range.mp member)) (abs_weight_le _) (abs_nonneg _) nonneg
  have mean := abs_mean_le (by linarith) weighted
  rw [card_range] at mean
  rwa [kernelMean, Nat.cast_ofNat]

/-- One sample comes back three times as large. -/
theorem kernelMean_one : kernelMean x 1 omega 0 = 3 * x 0 := by
  simp only [kernelMean, sum_range_one, Nat.cast_ofNat, Nat.cast_zero, sub_zero, mul_zero, cos_zero, Nat.cast_one,
    div_one]
  ring

end Sinusoid

end Stgs.Theory.Projection
