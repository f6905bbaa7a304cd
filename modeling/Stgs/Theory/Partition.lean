/-
# Theory.Partition -- consecutive intervals between cuts

Increasing cuts `cut 0 < cut 1 < ... < cut parts` part the indices between the first
and the last into consecutive non-empty intervals (`Tiling.of_cuts`).  The cuts
`k * size / parts` are increasing as long as there are no more parts than indices:
each is at least one further than the one before (`proportionalCut_lt`).
-/
import Mathlib

namespace Stgs.Theory

set_option autoImplicit false

/-- The intervals from `first k` up to `last k` are non-empty and consecutive, and
cover `0, ..., size - 1`, each index once. -/
structure Tiling (first last : Nat → Nat) (parts size : Nat) : Prop where
  nonempty : ∀ k < parts, first k < last k
  start : first 0 = 0
  consecutive : ∀ k, k + 1 < parts → last k = first (k + 1)
  stop : last (parts - 1) = size
  inside : ∀ k < parts, last k ≤ size
  once : ∀ i < size, ∃! k, k < parts ∧ first k ≤ i ∧ i < last k
  /-- the indices of all intervals, one interval after the other -/
  visited : (List.range parts).flatMap (fun k => List.range' (first k) (last k - first k)) =
    List.range size

section Cuts

variable {cut : Nat → Nat}

/-- An index between the first cut and the last is between two neighbouring ones. -/
theorem exists_between_cuts {parts i : Nat} (low : cut 0 ≤ i) (high : i < cut parts) :
    ∃ k < parts, cut k ≤ i ∧ i < cut (k + 1) := by
  induction parts with
  | zero => omega
  | succ parts ih =>
      rcases Nat.lt_or_ge i (cut parts) with before | after
      · obtain ⟨k, below, between⟩ := ih before
        exact ⟨k, Nat.lt_succ_of_lt below, between⟩
      · exact ⟨parts, Nat.lt_succ_self _, after, high⟩

theorem existsUnique_between_cuts (mono : Monotone cut) {parts i : Nat} (low : cut 0 ≤ i)
    (high : i < cut parts) : ∃! k, k < parts ∧ cut k ≤ i ∧ i < cut (k + 1) := by
  obtain ⟨k, below, between⟩ := exists_between_cuts low high
  refine ⟨k, ⟨below, between⟩, ?_⟩
  rintro other ⟨_, otherBetween⟩
  rcases Nat.lt_trichotomy other k with earlier | same | later
  · have apart : cut (other + 1) ≤ cut k := mono earlier
    omega
  · exact same
  · have apart : cut (k + 1) ≤ cut other := mono later
    omega

/-- The intervals one after the other are one interval. -/
theorem flatMap_intervals (mono : Monotone cut) (parts : Nat) :
    (List.range parts).flatMap (fun k => List.range' (cut k) (cut (k + 1) - cut k)) =
      List.range' (cut 0) (cut parts - cut 0) := by
  induction parts with
  | zero => simp
  | succ parts ih =>
      have first := mono (Nat.zero_le parts)
      have next : cut parts ≤ cut (parts + 1) := mono (Nat.le_add_right parts 1)
      have lengths : cut parts - cut 0 + (cut (parts + 1) - cut parts) =
          cut (parts + 1) - cut 0 := by omega
      have joined := List.range'_append_1 (s := cut 0) (m := cut parts - cut 0)
        (n := cut (parts + 1) - cut parts)
      rw [Nat.add_sub_cancel' first, lengths] at joined
      rw [List.range_succ, List.flatMap_append, ih, List.flatMap_singleton, joined]

/-- **Increasing cuts make a tiling.** -/
theorem Tiling.of_cuts (strict : StrictMono cut) {parts : Nat} (some : 0 < parts)
    (start : cut 0 = 0) : Tiling cut (fun k => cut (k + 1)) parts (cut parts) where
  nonempty k _ := strict (Nat.lt_succ_self k)
  start := start
  consecutive _ _ := rfl
  stop := congrArg cut (Nat.sub_add_cancel some)
  inside k below := strict.monotone (Nat.succ_le_of_lt below)
  once i inside := existsUnique_between_cuts strict.monotone (by omega) inside
  visited := by
    rw [flatMap_intervals strict.monotone, start, Nat.sub_zero, List.range_eq_range']

end Cuts

/-- The bounds of a tiling matter below `parts` only. -/
theorem Tiling.congr {first last first' last' : Nat → Nat} {parts size : Nat} (some : 0 < parts)
    (firsts : ∀ k < parts, first' k = first k) (lasts : ∀ k < parts, last' k = last k)
    (tiling : Tiling first last parts size) : Tiling first' last' parts size where
  nonempty k below := by
    rw [firsts k below, lasts k below]
    exact tiling.nonempty k below
  start := (firsts 0 some).trans tiling.start
  consecutive k below := by
    rw [lasts k (by omega), firsts (k + 1) below]
    exact tiling.consecutive k below
  stop := (lasts _ (by omega)).trans tiling.stop
  inside k below := (lasts k below).trans_le (tiling.inside k below)
  once i inside := by
    obtain ⟨k, ⟨below, between⟩, unique⟩ := tiling.once i inside
    refine ⟨k, ⟨below, ?_⟩, ?_⟩
    · rwa [firsts k below, lasts k below]
    · rintro other ⟨otherBelow, otherBetween⟩
      rw [firsts other otherBelow, lasts other otherBelow] at otherBetween
      exact unique other ⟨otherBelow, otherBetween⟩
  visited := by
    rw [← tiling.visited]
    refine List.flatMap_congr fun k member => ?_
    have below := List.mem_range.mp member
    rw [firsts k below, lasts k below]

/-! ## Proportional cuts -/

/-- Where the `k`-th of `parts` parts of a size begins. -/
def proportionalCut (size parts k : Nat) : Nat := k * size / parts

theorem proportionalCut_zero (size parts : Nat) : proportionalCut size parts 0 = 0 := by
  rw [proportionalCut, Nat.zero_mul, Nat.zero_div]

theorem proportionalCut_all (size : Nat) {parts : Nat} (some : 0 < parts) :
    proportionalCut size parts parts = size :=
  Nat.mul_div_cancel_left size some

/-- **The next cut is at least one further.** -/
theorem proportionalCut_lt {size parts : Nat} (some : 0 < parts) (room : parts ≤ size) (k : Nat) :
    proportionalCut size parts k < proportionalCut size parts (k + 1) := by
  calc k * size / parts < k * size / parts + 1 := Nat.lt_succ_self _
    _ = (k * size + parts) / parts := (Nat.add_div_right _ some).symm
    _ ≤ (k + 1) * size / parts := by
        apply Nat.div_le_div_right
        rw [Nat.add_mul, Nat.one_mul]
        exact Nat.add_le_add_left room _

theorem proportionalCut_tiling {size parts : Nat} (some : 0 < parts) (room : parts ≤ size) :
    Tiling (proportionalCut size parts) (fun k => proportionalCut size parts (k + 1)) parts size := by
  have tiling := Tiling.of_cuts (strictMono_nat_of_lt_succ (proportionalCut_lt some room)) some
    (proportionalCut_zero size parts)
  rwa [proportionalCut_all size some] at tiling

end Stgs.Theory
