/-
# Theory.Phasor -- measuring a sinusoid by correlation

The correlations of a finite sequence with the cosine and the sine of one frequency are the
parts of a complex number, its `phasor`.  Of `a sin + b cos` that number should be `b + a i`;
it is that plus its conjugate times the `leakage`, the mean of the doubled phases
(`phasor_sinusoid`).  A geometric sum: the leakage is zero when the sequence covers whole
half periods, and small when it covers many (`norm_leakage`).

So the length of the phasor is the amplitude up to the leakage and up to the mean of what is
not the sinusoid (`amplitude_error`), whatever its phase and wherever the sequence begins.
-/
import Mathlib

namespace Stgs.Theory.Phasor

set_option autoImplicit false

open Finset ComplexConjugate

variable (omega : ℝ) (start count : Nat)

/-- The phase of a point of the sequence. -/
noncomputable def phase (j : Nat) : ℝ := omega * (start + j : Nat)

noncomputable def phasor (x : Nat → ℝ) : ℂ :=
  (2 : ℕ) / count * ∑ j ∈ range count, x j * Complex.exp (Complex.I * phase omega start j)

/-- The mean of the doubled phases. -/
noncomputable def leakage : ℂ :=
  (∑ j ∈ range count, Complex.exp (Complex.I * ((2 : ℕ) * phase omega start j : ℝ))) / count

/-- `a sin + b cos`. -/
noncomputable def sinusoid (a b : ℝ) (j : Nat) : ℝ :=
  a * Real.sin (phase omega start j) + b * Real.cos (phase omega start j)

/-- What the phasor of a sinusoid should be. -/
noncomputable def coefficient (a b : ℝ) : ℂ := ⟨b, a⟩

theorem norm_coefficient (a b : ℝ) : ‖coefficient a b‖ = Real.sqrt (a ^ 2 + b ^ 2) := by
  rw [Complex.norm_def, Complex.normSq_apply, coefficient]
  congr 1
  ring

/-! ## Its parts -/

theorem exp_parts (t : ℝ) :
    Complex.exp (Complex.I * t) = ⟨Real.cos t, Real.sin t⟩ := by
  apply Complex.ext
  · simp [Complex.exp_re]
  · simp [Complex.exp_im]

/-- **The two correlations.** -/
theorem phasor_parts (x : Nat → ℝ) : phasor omega start count x =
    ⟨2 * (∑ j ∈ range count, x j * Real.cos (phase omega start j)) / count,
      2 * (∑ j ∈ range count, x j * Real.sin (phase omega start j)) / count⟩ := by
  have scale : ((2 : ℕ) / count : ℂ) = ((2 / count : ℝ) : ℂ) := by push_cast; ring
  rw [phasor, scale]
  apply Complex.ext
  · rw [Complex.re_ofReal_mul, Complex.re_sum]
    simp only [exp_parts, Complex.re_ofReal_mul]
    ring
  · rw [Complex.im_ofReal_mul, Complex.im_sum]
    simp only [exp_parts, Complex.im_ofReal_mul]
    ring

theorem phasor_add (x y : Nat → ℝ) : phasor omega start count (fun j => x j + y j) =
    phasor omega start count x + phasor omega start count y := by
  rw [phasor, phasor, phasor, ← mul_add, ← sum_add_distrib]
  congr 1
  refine sum_congr rfl fun j _ => ?_
  push_cast
  ring

/-- The phasor is no longer than twice the mean of the sequence. -/
theorem norm_phasor_le (x : Nat → ℝ) :
    ‖phasor omega start count x‖ ≤ 2 * (∑ j ∈ range count, |x j|) / count := by
  have each : ‖∑ j ∈ range count, x j * Complex.exp (Complex.I * phase omega start j)‖ ≤
      ∑ j ∈ range count, |x j| := by
    refine (norm_sum_le _ _).trans (sum_le_sum fun j _ => ?_)
    rw [norm_mul, mul_comm Complex.I, Complex.norm_exp_ofReal_mul_I, mul_one, Complex.norm_real,
      Real.norm_eq_abs]
  rw [phasor, Nat.cast_ofNat, norm_mul, norm_div, Complex.norm_two, Complex.norm_natCast,
    div_mul_eq_mul_div]
  gcongr

/-! ## Leakage -/

/-- **The phasor of a sinusoid.** -/
theorem phasor_sinusoid (a b : ℝ) (some : count ≠ 0) :
    phasor omega start count (sinusoid omega start a b) =
      coefficient a b + conj (coefficient a b) * leakage omega start count := by
  have nonzero : (count : ℂ) ≠ 0 := Nat.cast_ne_zero.mpr some
  have each (j : Nat) : (2 : ℂ) * (sinusoid omega start a b j *
      Complex.exp (Complex.I * phase omega start j)) =
      coefficient a b + conj (coefficient a b) *
        Complex.exp (Complex.I * (2 * phase omega start j : ℝ)) := by
    have square := Real.sin_sq_add_cos_sq (phase omega start j)
    rw [exp_parts, exp_parts, sinusoid, coefficient, ← Complex.ofReal_ofNat, ← mul_assoc,
      ← Complex.ofReal_mul, Real.cos_two_mul, Real.sin_two_mul]
    apply Complex.ext
    · simp only [Complex.add_re, Complex.mul_re, Complex.conj_re, Complex.conj_im,
        Complex.ofReal_re, Complex.ofReal_im]
      ring
    · simp only [Complex.add_im, Complex.mul_im, Complex.conj_re, Complex.conj_im,
        Complex.ofReal_re, Complex.ofReal_im]
      linear_combination (2 * a) * square
  rw [phasor, leakage]
  simp only [Nat.cast_ofNat]
  rw [div_mul_eq_mul_div, Finset.mul_sum, Finset.sum_congr rfl fun j _ => each j,
    sum_add_distrib, sum_const, card_range, nsmul_eq_mul, ← Finset.mul_sum]
  field_simp

/-- **A geometric sum.** -/
theorem norm_leakage (turns : Real.sin omega ≠ 0) :
    ‖leakage omega start count‖ =
      |Real.sin (count * omega)| / (count * |Real.sin omega|) := by
  have step : ‖Complex.exp (Complex.I * (2 * omega : ℝ)) - 1‖ = 2 * |Real.sin omega| := by
    rw [Complex.norm_exp_I_mul_ofReal_sub_one, norm_mul, Real.norm_eq_abs, Real.norm_eq_abs,
      abs_two, mul_div_cancel_left₀ _ two_ne_zero]
  have apart : Complex.exp (Complex.I * (2 * omega : ℝ)) ≠ 1 := by
    intro same
    rw [same, sub_self, norm_zero] at step
    exact turns (abs_eq_zero.mp (by linarith))
  have power (j : Nat) : Complex.exp (Complex.I * (2 * phase omega start j : ℝ)) =
      Complex.exp (Complex.I * (2 * omega * start : ℝ)) *
        Complex.exp (Complex.I * (2 * omega : ℝ)) ^ j := by
    rw [← Complex.exp_nat_mul, ← Complex.exp_add, phase]
    congr 1
    push_cast
    ring
  have whole : Complex.exp (Complex.I * (2 * omega : ℝ)) ^ count =
      Complex.exp (Complex.I * (2 * (count * omega) : ℝ)) := by
    rw [← Complex.exp_nat_mul]
    congr 1
    push_cast
    ring
  rw [leakage]
  simp only [Nat.cast_ofNat]
  rw [Finset.sum_congr rfl fun j _ => power j, ← Finset.mul_sum, geom_sum_eq apart, whole,
    norm_div, norm_mul, norm_div, step, Complex.norm_exp_I_mul_ofReal_sub_one,
    mul_comm Complex.I, Complex.norm_exp_ofReal_mul_I, one_mul, norm_mul, Real.norm_eq_abs,
    Real.norm_eq_abs, abs_two, mul_div_cancel_left₀ _ two_ne_zero, Complex.norm_natCast]
  field_simp

/-! ## Amplitudes -/

/-- **The error of a measured amplitude.** -/
theorem amplitude_error (a b : ℝ) (x : Nat → ℝ) (some : count ≠ 0) (turns : Real.sin omega ≠ 0) :
    |‖phasor omega start count x‖ - Real.sqrt (a ^ 2 + b ^ 2)| ≤
      Real.sqrt (a ^ 2 + b ^ 2) * (|Real.sin (count * omega)| / (count * |Real.sin omega|)) +
        2 * (∑ j ∈ range count, |x j - sinusoid omega start a b j|) / count := by
  have split : phasor omega start count x = phasor omega start count (sinusoid omega start a b) +
      phasor omega start count (fun j => x j - sinusoid omega start a b j) := by
    rw [← phasor_add]
    congr 1
    funext j
    ring
  have rest := norm_phasor_le omega start count (fun j => x j - sinusoid omega start a b j)
  rw [← norm_coefficient a b, ← norm_leakage omega start count turns]
  calc |‖phasor omega start count x‖ - ‖coefficient a b‖|
      ≤ ‖phasor omega start count x - coefficient a b‖ := abs_norm_sub_norm_le _ _
    _ = ‖conj (coefficient a b) * leakage omega start count +
          phasor omega start count (fun j => x j - sinusoid omega start a b j)‖ := by
        rw [split, phasor_sinusoid omega start count a b some]
        congr 1
        ring
    _ ≤ ‖conj (coefficient a b) * leakage omega start count‖ +
          ‖phasor omega start count (fun j => x j - sinusoid omega start a b j)‖ :=
        norm_add_le _ _
    _ ≤ ‖coefficient a b‖ * ‖leakage omega start count‖ +
          2 * (∑ j ∈ range count, |x j - sinusoid omega start a b j|) / count := by
        rw [norm_mul, RCLike.norm_conj]
        gcongr

end Stgs.Theory.Phasor
