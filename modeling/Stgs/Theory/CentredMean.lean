/-
# Theory.CentredMean -- means over the neighbours of a point

The neighbours of a point of `0, ..., size - 1` are the points at distance `radius`
at most: an interval cut off at both borders (`neighbours_eq_Ico`).  The mean of a
sequence over them lies between two of its terms (`centredMean_between`), and
reflecting the sequence reflects its means (`centredMean_reflect`): a distance does
not know left from right.
-/
import Mathlib

namespace Stgs.Theory

set_option autoImplicit false

open Finset

universe u

/-- The points at distance `radius` at most. -/
def neighbours (size radius i : Nat) : Finset Nat :=
  (range size).filter fun j => |(j : ℤ) - i| ≤ radius

theorem mem_neighbours {size radius i j : Nat} :
    j ∈ neighbours size radius i ↔ j < size ∧ j ≤ i + radius ∧ i ≤ j + radius := by
  rw [neighbours, mem_filter, mem_range, abs_le]
  omega

theorem neighbours_nonempty {size i : Nat} (inside : i < size) (radius : Nat) :
    (neighbours size radius i).Nonempty :=
  ⟨i, mem_neighbours.mpr (by omega)⟩

/-- **Both borders at once.** -/
theorem neighbours_eq_Ico (size radius i : Nat) :
    neighbours size radius i = Ico (i - radius) (min size (i + radius + 1)) := by
  ext j
  rw [mem_neighbours, mem_Ico, lt_min_iff]
  omega

theorem neighbours_zero {size i : Nat} (inside : i < size) : neighbours size 0 i = {i} := by
  ext j
  rw [mem_neighbours, mem_singleton]
  omega

variable {K : Type u} [Field K]

/-- The mean over the neighbours of a point. -/
def centredMean (f : Nat → K) (size radius i : Nat) : K :=
  (∑ j ∈ neighbours size radius i, f j) / (neighbours size radius i).card

theorem centredMean_zero (f : Nat → K) {size i : Nat} (inside : i < size) :
    centredMean f size 0 i = f i := by
  rw [centredMean, neighbours_zero inside, sum_singleton, card_singleton, Nat.cast_one, div_one]

/-- The sum over the neighbours, seen from the other end. -/
theorem sum_neighbours_reflect (f : Nat → K) {size i : Nat} (inside : i < size) (radius : Nat) :
    ∑ j ∈ neighbours size radius (size - 1 - i), f j =
      ∑ j ∈ neighbours size radius i, f (size - 1 - j) := by
  refine sum_nbij' (fun j => size - 1 - j) (fun j => size - 1 - j) ?_ ?_ ?_ ?_ ?_
  · intro j member
    rw [mem_neighbours] at member ⊢
    omega
  · intro j member
    rw [mem_neighbours] at member ⊢
    omega
  · intro j member
    rw [mem_neighbours] at member
    omega
  · intro j member
    rw [mem_neighbours] at member
    omega
  · intro j member
    rw [mem_neighbours] at member
    congr 1
    omega

/-- **The means of a reflected sequence are its means reflected.** -/
theorem centredMean_reflect {f g : Nat → K} {size : Nat}
    (reflected : ∀ j < size, g j = f (size - 1 - j)) {i : Nat} (inside : i < size) (radius : Nat) :
    centredMean g size radius i = centredMean f size radius (size - 1 - i) := by
  have sums : ∑ j ∈ neighbours size radius i, g j =
      ∑ j ∈ neighbours size radius (size - 1 - i), f j := by
    rw [sum_neighbours_reflect f inside]
    refine sum_congr rfl fun j member => ?_
    exact reflected j (mem_neighbours.mp member).1
  have cards : ((neighbours size radius i).card : K) =
      (neighbours size radius (size - 1 - i)).card := by
    have ones := sum_neighbours_reflect (fun _ => (1 : K)) inside radius
    simpa using ones.symm
  rw [centredMean, centredMean, sums, cards]

section Order

variable [LinearOrder K] [IsStrictOrderedRing K]

/-- **A mean lies between two of its terms.** -/
theorem mean_between {s : Finset Nat} (nonempty : s.Nonempty) (f : Nat → K) :
    (∃ i ∈ s, f i ≤ (∑ j ∈ s, f j) / s.card) ∧ ∃ i ∈ s, (∑ j ∈ s, f j) / s.card ≤ f i := by
  have positive : (0 : K) < s.card := Nat.cast_pos.mpr nonempty.card_pos
  have total : ∑ _j ∈ s, (∑ j ∈ s, f j) / s.card = ∑ j ∈ s, f j := by
    rw [sum_const, nsmul_eq_mul, mul_div_cancel₀ _ positive.ne']
  constructor
  · exact exists_le_of_sum_le nonempty total.ge
  · exact exists_le_of_sum_le nonempty total.le

theorem centredMean_between (f : Nat → K) {size i : Nat} (inside : i < size) (radius : Nat) :
    (∃ low < size, f low ≤ centredMean f size radius i) ∧
      ∃ high < size, centredMean f size radius i ≤ f high := by
  obtain ⟨⟨low, lowMember, above⟩, high, highMember, below⟩ :=
    mean_between (neighbours_nonempty inside radius) f
  exact ⟨⟨low, (mem_neighbours.mp lowMember).1, above⟩,
    high, (mem_neighbours.mp highMember).1, below⟩

end Order

end Stgs.Theory
