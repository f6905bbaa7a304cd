/-
# Theory.OutputSequence -- the bits a shift register puts out, and its sparse multiples

A sum of at most three powers `x^a + x^b + x^c` of a register vanishes only if the
output of the register repeats: divided by its lowest power it is `1 + x^p + x^q`, and
the first bits put out from `1` are zero, so the output from `p` on agrees with the
output from `q` on, for one bit less than the width (`power_three_ne_zero`).  Whether a
window of that length repeats below a bound is decided on naturals, whose bits are the
output:

* `series` -- the output as one number, a power series: the reciprocal of a sparse
  polynomial, multiplied up by its own squares.  Nothing is proved of how it is found;
  `testBit_series` recognises it by one more multiplication;
* `copies` -- equally wide lanes, one for each of several distances;
* `runs` -- where a run of ones starts, found by doubling;
* `noRepeat` -- for each distance, the output xored with itself at that distance has
  no run of agreeing bits as long as a window.

Each packed operation has its theorem on single bits; nothing here knows a polynomial.
-/
import Mathlib.Data.List.Sort
import Stgs.Theory.ShiftRegister

namespace Stgs.Theory.ShiftRegister

set_option autoImplicit false

variable {w : Nat}

/-! ## Repeated windows of a packed sequence -/

/-- The bits from which as many ones follow as the strides add up to. -/
def runs (z : Nat) : List Nat → Nat
  | [] => z
  | stride :: rest => runs (z &&& z >>> stride) rest

/-- Lanes of one width, next to each other. -/
def copies (width : Nat) (lane : Nat → Nat) : Nat → Nat
  | 0 => 0
  | lanes + 1 => copies width lane lanes ||| (lane lanes % 2 ^ width) <<< (width * lanes)

/-- The bits that a number shares with itself, lane `j` at the distance `j + 1` more. -/
def agreement (u width lanes distance : Nat) : Nat :=
  copies width (fun _ => u) lanes ^^^
    copies width (fun j => u >>> (j + 1)) lanes >>> distance ^^^ (2 ^ (width * lanes) - 1)

/-- No window repeats at the distances of `count` batches. -/
def noRepeat (u width lanes : Nat) (strides : List Nat) (first : Nat) : Nat → Bool
  | 0 => true
  | count + 1 =>
      runs (agreement u width lanes (lanes * (first + count))) strides == 0 &&
        noRepeat u width lanes strides first count

/-- By induction on the strides: ones in a longer window are ones in two shorter ones. -/
theorem testBit_runs {strides : List Nat} {z i : Nat}
    (ones : ∀ j < 1 + strides.sum, z.testBit (i + j) = true) :
    (runs z strides).testBit i = true := by
  induction strides generalizing z with
  | nil => exact ones 0 (Nat.lt_add_right _ Nat.one_pos)
  | cons stride rest ih =>
      rw [List.sum_cons] at ones
      refine ih fun j inside => ?_
      have near := ones j (by omega)
      have far := ones (stride + j) (by omega)
      have place : i + (stride + j) = stride + (i + j) := by omega
      rw [place] at far
      rw [Nat.testBit_and, Nat.testBit_shiftRight, near, far, Bool.and_self]

theorem copies_lt (width : Nat) (lane : Nat → Nat) (lanes : Nat) :
    copies width lane lanes < 2 ^ (width * lanes) := by
  induction lanes with
  | zero => exact Nat.one_pos
  | succ lanes ih =>
      have wider : width * lanes + width = width * (lanes + 1) := (Nat.mul_succ width lanes).symm
      refine Nat.or_lt_two_pow (ih.trans_le ?_) ?_
      · exact Nat.pow_le_pow_right Nat.two_pos (by omega)
      · rw [Nat.shiftLeft_eq, ← wider, Nat.pow_add, Nat.mul_comm]
        exact Nat.mul_lt_mul_of_pos_left (Nat.mod_lt _ (Nat.two_pow_pos _)) (Nat.two_pow_pos _)

theorem testBit_copies (width : Nat) (lane : Nat → Nat) {lanes j i : Nat} (present : j < lanes)
    (inside : i < width) :
    (copies width lane lanes).testBit (width * j + i) = (lane j).testBit i := by
  induction lanes with
  | zero => cases present
  | succ lanes ih =>
      rw [copies, Nat.testBit_or, Nat.testBit_shiftLeft]
      rcases Nat.lt_or_eq_of_le (Nat.le_of_lt_succ present) with earlier | rfl
      · have below : width * j + i < width * lanes := by
          have := Nat.mul_le_mul_left width (Nat.succ_le_of_lt earlier)
          rw [Nat.mul_succ] at this
          omega
        rw [ih earlier, decide_eq_false (Nat.not_le.mpr below), Bool.false_and, Bool.or_false]
      · have past : (copies width lane j).testBit (width * j + i) = false :=
          Nat.testBit_lt_two_pow ((copies_lt width lane j).trans_le
            (Nat.pow_le_pow_right Nat.two_pos (Nat.le_add_right _ _)))
        rw [past, decide_eq_true (Nat.le_add_right _ _), Nat.add_sub_cancel_left,
          Nat.testBit_mod_two_pow, decide_eq_true inside, Bool.true_and, Bool.true_and,
          Bool.false_or]

/-- A bit that a number shares with itself at a distance, in the lane of that distance. -/
theorem testBit_agreement {u width lanes distance j i : Nat} (present : j < lanes)
    (inside : i + distance + (j + 1) < width)
    (agree : u.testBit i = u.testBit (i + distance + (j + 1))) :
    (agreement u width lanes distance).testBit (width * j + i) = true := by
  have below : width * j + i < width * lanes := by
    have := Nat.mul_le_mul_left width (Nat.succ_le_of_lt present)
    rw [Nat.mul_succ] at this
    omega
  have place : distance + (width * j + i) = width * j + (i + distance) := by omega
  rw [agreement, Nat.testBit_xor, Nat.testBit_xor, Nat.testBit_shiftRight, place,
    testBit_copies width _ present (by omega), testBit_copies width _ present (by omega),
    Nat.testBit_shiftRight, Nat.add_comm (j + 1), agree, Nat.testBit_two_pow_sub_one,
    decide_eq_true below, Bool.xor_self, Bool.false_xor]

theorem noRepeat_batch {u width lanes first count k : Nat} {strides : List Nat}
    (passes : noRepeat u width lanes strides first count = true) (inside : k < count) :
    runs (agreement u width lanes (lanes * (first + k))) strides = 0 := by
  induction count with
  | zero => cases inside
  | succ count ih =>
      rw [noRepeat, Bool.and_eq_true, beq_iff_eq] at passes
      obtain ⟨here, rest⟩ := passes
      rcases Nat.lt_or_eq_of_le (Nat.le_of_lt_succ inside) with less | rfl
      · exact ih rest less
      · exact here

/-- **A sequence that passes repeats no window.** -/
theorem noRepeat_sound {u width lanes chunks count : Nat} {strides : List Nat}
    (passes : ∀ chunk < chunks, noRepeat u width lanes strides (count * chunk) count = true)
    {a b : Nat} (less : a < b) (near : b - a ≤ lanes * (count * chunks))
    (inside : b + (1 + strides.sum) ≤ width) :
    ∃ j < 1 + strides.sum, u.testBit (a + j) ≠ u.testBit (b + j) := by
  have some : 0 < lanes := Nat.pos_of_mul_pos_right (show 0 < lanes * (count * chunks) by omega)
  have batches : (b - a - 1) / lanes < count * chunks :=
    (Nat.div_lt_iff_lt_mul some).mpr (by rw [Nat.mul_comm]; omega)
  have many : 0 < count := Nat.pos_of_mul_pos_right (Nat.zero_lt_of_lt batches)
  have chunk : (b - a - 1) / lanes / count < chunks := by
    rw [Nat.div_lt_iff_lt_mul many, Nat.mul_comm]
    exact batches
  have clear := noRepeat_batch (passes _ chunk) (Nat.mod_lt ((b - a - 1) / lanes) many)
  rw [Nat.div_add_mod] at clear
  have lane : (b - a - 1) % lanes < lanes := Nat.mod_lt _ some
  have parts := Nat.div_add_mod (b - a - 1) lanes
  by_contra same
  push Not at same
  have run : (runs (agreement u width lanes (lanes * ((b - a - 1) / lanes))) strides).testBit
      (width * ((b - a - 1) % lanes) + a) = true := by
    refine testBit_runs fun j window => ?_
    have place : a + j + lanes * ((b - a - 1) / lanes) + ((b - a - 1) % lanes + 1) = b + j := by
      omega
    rw [Nat.add_assoc]
    refine testBit_agreement lane (by omega) ?_
    rw [place]
    exact same j window
  rw [clear, Nat.zero_testBit] at run
  cases run

/-! ## The output -/

section Output

variable (poly : BitVec w)

/-- The bit that falls out at step `i`. -/
def output (c : BitVec w) (i : Nat) : Bool := (shifts poly i c).getLsbD 0

theorem output_xor (c d : BitVec w) (i : Nat) :
    output poly (c ^^^ d) i = (output poly c i ^^ output poly d i) := by
  rw [output, shifts_linear, BitVec.getLsbD_xor]
  rfl

theorem output_shifts (c : BitVec w) (m i : Nat) :
    output poly (shifts poly m c) i = output poly c (m + i) := by
  rw [output, output, shifts_add]

theorem output_zero (i : Nat) : output poly 0#w i = false := by
  rw [output, (shifts_linear poly i).map_zero, BitVec.getLsbD_zero]

/-- The register that holds the polynomial 1. -/
def unit (w : Nat) : BitVec w := BitVec.twoPow w (w - 1)

/-- The register that holds `x ^ e`. -/
def power (e : Nat) : BitVec w := shifts poly e (unit w)

theorem output_power (e i : Nat) :
    output poly (power poly e) i = output poly (unit w) (e + i) :=
  output_shifts poly _ e i

/-- The only bit of 1 on its way down. -/
theorem output_unit {i : Nat} (early : i < w) :
    output poly (unit w) i = decide (i = w - 1) := by
  have clear (j : Nat) (low : j < w - 1) : (unit w).getLsbD j = false := by
    rw [unit, BitVec.getLsbD_twoPow, decide_eq_false (Nat.ne_of_gt low), Bool.and_false]
  have last : w - 1 < w := by omega
  have place : w - 1 = i ↔ i = w - 1 := eq_comm
  rw [output, shifts_of_low_clear poly i _ fun j below => clear j (by omega),
    BitVec.getLsbD_ushiftRight, unit, BitVec.getLsbD_twoPow, Nat.add_zero, decide_eq_true last,
    Bool.true_and]
  simp only [place]

/-- The exclusive or of a list of words. -/
def xorAll (words : List (BitVec w)) : BitVec w := words.foldr (· ^^^ ·) 0#w

/-! ## The output as a power series -/

/-- The exclusive or of a list of bits. -/
def xorBits (bits : List Bool) : Bool := bits.foldr xor false

/-- A power series times a sparse polynomial in a power of the variable. -/
def times (u : Nat) (exponents : List Nat) (scale : Nat) : Nat :=
  exponents.foldr (fun e product => u <<< (e * scale) ^^^ product) 0

/-- A power series divided by a sparse polynomial with the constant term 1, up to a
length below `2 ^ rounds`: times the polynomial, its square, the square of that. -/
def series (exponents : List Nat) (length : Nat) : Nat → Nat → Nat
  | 0, u => u
  | rounds + 1, u =>
      times (series exponents length rounds u) exponents (2 ^ rounds) % 2 ^ length

theorem testBit_times (u : Nat) (exponents : List Nat) (i : Nat) :
    (times u exponents 1).testBit i =
      xorBits (exponents.map fun e => decide (e ≤ i) && u.testBit (i - e)) := by
  induction exponents with
  | nil => exact Nat.zero_testBit i
  | cons e rest ih =>
      show (u <<< (e * 1) ^^^ times u rest 1).testBit i = _
      rw [Nat.testBit_xor, Nat.mul_one, Nat.testBit_shiftLeft, ih, List.map_cons]
      rfl

theorem output_xorAll (words : List (BitVec w)) (i : Nat) :
    output poly (xorAll words) i = xorBits (words.map fun word => output poly word i) := by
  induction words with
  | nil => exact output_zero poly i
  | cons word rest ih =>
      show output poly (word ^^^ xorAll rest) i = _
      rw [output_xor, ih, List.map_cons]
      rfl

theorem xorBits_false {bits : List Bool} (none : ∀ bit ∈ bits, bit = false) :
    xorBits bits = false := by
  induction bits with
  | nil => rfl
  | cons bit rest ih =>
      show (bit ^^ xorBits rest) = false
      rw [none bit List.mem_cons_self, ih fun other member => none other (List.mem_cons_of_mem _ member),
        Bool.xor_self]

/-- What a polynomial that the register is zero on says of its output. -/
theorem output_recurrence {exponents : List Nat} (wide : 0 < w)
    (low : ∀ e ∈ exponents, 0 < e ∧ e ≤ w)
    (zero : xorAll ((0 :: exponents).map fun e => power poly (w - e)) = 0#w) (i : Nat) :
    xorBits ((0 :: exponents).map fun e => decide (e ≤ i) && output poly (unit w) (i - e)) =
      decide (i = w - 1) := by
  rcases Nat.lt_or_ge i w with early | late
  · -- before the feedback there is one bit
    have others : xorBits (exponents.map fun e =>
        decide (e ≤ i) && output poly (unit w) (i - e)) = false := by
      refine xorBits_false fun bit member => ?_
      obtain ⟨e, listed, rfl⟩ := List.mem_map.mp member
      obtain ⟨positive, _⟩ := low e listed
      by_cases reached : e ≤ i
      · have silent : i - e ≠ w - 1 := by omega
        rw [output_unit poly (by omega), decide_eq_false silent, Bool.and_false]
      · rw [decide_eq_false reached, Bool.false_and]
    show (decide (0 ≤ i) && output poly (unit w) i ^^ xorBits _) = _
    rw [others, decide_eq_true (Nat.zero_le i), Bool.true_and, Bool.xor_false, output_unit poly early]
  · have past : i ≠ w - 1 := by omega
    have shifted : ((0 :: exponents).map fun e =>
        decide (e ≤ i) && output poly (unit w) (i - e)) =
        ((0 :: exponents).map fun e => power poly (w - e)).map fun word =>
          output poly word (i - w) := by
      rw [List.map_map]
      refine List.map_congr_left fun e member => ?_
      have fits : e ≤ w := by
        rcases List.mem_cons.mp member with rfl | listed
        · exact Nat.zero_le w
        · exact (low e listed).2
      have place : w - e + (i - w) = i - e := by omega
      rw [Function.comp_apply, output_power, place, decide_eq_true (fits.trans late), Bool.true_and]
    rw [shifted, ← output_xorAll, zero, output_zero, decide_eq_false past]

/-- **A series that is recognised is the output.** -/
theorem testBit_series {exponents : List Nat} {u length : Nat} (wide : 0 < w)
    (low : ∀ e ∈ exponents, 0 < e ∧ e ≤ w)
    (zero : xorAll ((0 :: exponents).map fun e => power poly (w - e)) = 0#w)
    (inverse : times u (0 :: exponents) 1 % 2 ^ length = 2 ^ (w - 1)) {i : Nat}
    (inside : i < length) : u.testBit i = output poly (unit w) i := by
  induction i using Nat.strongRecOn with
  | ind i ih =>
      have place : w - 1 = i ↔ i = w - 1 := eq_comm
      have product := congrArg (fun n => n.testBit i) inverse
      simp only [Nat.testBit_mod_two_pow, decide_eq_true inside, Bool.true_and, testBit_times,
        Nat.testBit_two_pow, place] at product
      have earlier : (exponents.map fun e => decide (e ≤ i) && u.testBit (i - e)) =
          exponents.map fun e => decide (e ≤ i) && output poly (unit w) (i - e) := by
        refine List.map_congr_left fun e listed => ?_
        obtain ⟨positive, _⟩ := low e listed
        by_cases reached : e ≤ i
        · rw [ih (i - e) (by omega) (by omega)]
        · rw [decide_eq_false reached, Bool.false_and, Bool.false_and]
      have recurrence := product.trans (output_recurrence poly wide low zero i).symm
      rw [List.map_cons, List.map_cons, earlier] at recurrence
      change (u.testBit i ^^ xorBits _) = (output poly (unit w) i ^^ xorBits _) at recurrence
      simpa using recurrence

/-! ## Sums of few powers -/

/-- No window of the output, one bit shorter than the register, repeats from one
exponent below the bound to another. -/
def WindowsDiffer (bound : Nat) : Prop :=
  ∀ a b, a < b → b < bound → ∃ j < w - 1, output poly (unit w) (a + j) ≠ output poly (unit w) (b + j)

theorem windowsDiffer_of_noRepeat {bound u width lanes chunks count : Nat} {strides : List Nat}
    (bits : ∀ i < width, u.testBit i = output poly (unit w) i) (window : 1 + strides.sum = w - 1)
    (long : bound + (w - 1) ≤ width) (all : bound ≤ lanes * (count * chunks))
    (passes : ∀ chunk < chunks, noRepeat u width lanes strides (count * chunk) count = true) :
    WindowsDiffer poly bound := by
  intro a b less below
  obtain ⟨j, inside, differ⟩ := noRepeat_sound passes less (by omega) (by omega)
  rw [bits _ (by omega), bits _ (by omega)] at differ
  exact ⟨j, window ▸ inside, differ⟩

/-- A sum of powers divided by the lowest one. -/
theorem shifts_power (a e : Nat) : shifts poly a (power poly e) = power poly (e + a) := by
  rw [power, power, shifts_add]

variable {poly} {bound : Nat}

/-- The register is reversible, so no power is zero. -/
theorem power_ne_zero (top : poly.msb = true) (wide : 0 < w) (a : Nat) : power poly a ≠ 0#w := by
  intro zero
  have one := congrArg (fun c : BitVec w => c.getLsbD (w - 1)) (shifts_eq_zero poly top zero)
  have last : w - 1 < w := Nat.sub_lt wide Nat.one_pos
  simp [unit, last] at one

/-- **Two powers below the bound differ**: their quotient would put out the first
zeros of 1. -/
theorem power_two_ne_zero (top : poly.msb = true) (differ : WindowsDiffer poly bound) {a b : Nat}
    (less : a < b) (below : b < bound) : power poly a ^^^ power poly b ≠ 0#w := by
  intro zero
  have quotient : power poly 0 ^^^ power poly (b - a) = 0#w := by
    refine shifts_eq_zero (n := a) poly top ?_
    rw [shifts_linear, shifts_power, shifts_power, Nat.zero_add, Nat.sub_add_cancel less.le, zero]
  obtain ⟨j, _, unlike⟩ := differ 0 (b - a) (by omega) (by omega)
  refine unlike ?_
  have bit := congrArg (fun c => output poly c j) quotient
  simp only [output_xor, output_power, output_zero] at bit
  simpa using bit

/-- **Three powers below the bound do not cancel**: divided by the lowest, the other
two would put out the same bits while 1 puts out zeros. -/
theorem power_three_ne_zero (top : poly.msb = true) (differ : WindowsDiffer poly bound)
    {a b c : Nat} (first : a < b) (second : b < c) (below : c < bound) :
    power poly a ^^^ (power poly b ^^^ power poly c) ≠ 0#w := by
  intro zero
  have quotient : power poly 0 ^^^ (power poly (b - a) ^^^ power poly (c - a)) = 0#w := by
    refine shifts_eq_zero (n := a) poly top ?_
    rw [shifts_linear, shifts_linear, shifts_power, shifts_power, shifts_power, Nat.zero_add,
      Nat.sub_add_cancel first.le, Nat.sub_add_cancel (first.trans second).le, zero]
  obtain ⟨j, window, unlike⟩ := differ (b - a) (c - a) (by omega) (by omega)
  refine unlike ?_
  have bit := congrArg (fun d => output poly d j) quotient
  have silent : output poly (unit w) j = false := by
    rw [output_unit poly (by omega), decide_eq_false (Nat.ne_of_lt window)]
  simp only [output_xor, output_power, output_zero, Nat.zero_add, silent] at bit
  rw [Bool.false_xor] at bit
  simpa using bit

theorem xorAll_perm {first second : List (BitVec w)} (perm : first.Perm second) :
    xorAll first = xorAll second := by
  induction perm with
  | nil => rfl
  | cons word _ ih => exact congrArg (word ^^^ ·) ih
  | swap a b rest =>
      show b ^^^ (a ^^^ xorAll rest) = a ^^^ (b ^^^ xorAll rest)
      ac_rfl
  | trans _ _ ih ih' => exact ih.trans ih'

/-- **At most three distinct powers below the bound do not cancel.** -/
theorem few_powers_ne_zero (top : poly.msb = true) (wide : 0 < w)
    (differ : WindowsDiffer poly bound) {exponents : List Nat} (distinct : exponents.Nodup)
    (some : 0 < exponents.length) (few : exponents.length ≤ 3)
    (below : ∀ e ∈ exponents, e < bound) : xorAll (exponents.map (power poly)) ≠ 0#w := by
  -- sorted, the exponents are one, two or three in increasing order
  have perm := List.mergeSort_perm exponents (· ≤ ·)
  rw [← xorAll_perm (perm.map (power poly))]
  have sorted : (exponents.mergeSort (· ≤ ·)).Pairwise (· < ·) := by
    have weakly : (exponents.mergeSort (· ≤ ·)).Pairwise (· ≤ ·) := List.pairwise_mergeSort' _ _
    have apart : (exponents.mergeSort (· ≤ ·)).Pairwise (· ≠ ·) := perm.nodup_iff.mpr distinct
    exact (weakly.and apart).imp fun both => lt_of_le_of_ne both.1 both.2
  rw [← perm.length_eq] at some few
  replace below : ∀ e ∈ exponents.mergeSort (· ≤ ·), e < bound :=
    fun e member => below e (perm.mem_iff.mp member)
  generalize exponents.mergeSort (· ≤ ·) = increasing at sorted some few below
  match increasing, sorted with
  | [a], _ =>
      show power poly a ^^^ 0#w ≠ 0#w
      rw [BitVec.xor_zero]
      exact power_ne_zero top wide a
  | [a, b], sorted =>
      show power poly a ^^^ (power poly b ^^^ 0#w) ≠ 0#w
      rw [BitVec.xor_zero]
      exact power_two_ne_zero top differ (by simpa using sorted) (below b (by simp))
  | [a, b, c], sorted =>
      show power poly a ^^^ (power poly b ^^^ (power poly c ^^^ 0#w)) ≠ 0#w
      simp only [List.pairwise_cons] at sorted
      rw [BitVec.xor_zero]
      exact power_three_ne_zero top differ (sorted.1 b (by simp)) (sorted.2.1 c (by simp))
        (below c (by simp))

end Output

end Stgs.Theory.ShiftRegister
