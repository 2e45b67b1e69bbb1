import Mathlib

/-!
# Integer parts of multiples of sines

The integer part of `N * |sin n|` for natural numbers `N` and `n`, decided in integers. The exponential series gives
`exp i` up to `2 ^ -60`, its powers give `exp (n * i)`, and their imaginary parts give the sines.

* `potencia n` : an approximation of `exp (n * i)`, times `escala ^ n`;
* `abs_sin_sub_le` : its imaginary part is the sine up to `n * 2 ^ -59`;
* `Certifica.floor_eq` : two inequalities between integers give the integer part.
-/

namespace Seno
open Complex

/-- The denominator of the first twenty terms of the exponential series. -/
def escala : Nat := Nat.factorial 19

/-- `escala * cos 1`, by the first twenty terms of the series. -/
def cosUno : Int := 65725128248453315

/-- `escala * sin 1`, by the first twenty terms of the series. -/
def senUno : Int := 102360822438075317

theorem escala_pos : (0 : ℝ) < escala := Nat.cast_pos.mpr (Nat.factorial_pos 19)

/-- The approximation of `exp i`. -/
noncomputable def uno : ℂ := (cosUno + senUno * I) / escala

theorem sum_exp_series (k : Nat) :
    ∑ m ∈ Finset.range (4 * k), I ^ m / (m.factorial : ℂ) =
      ∑ j ∈ Finset.range k, ((1 / ((4 * j).factorial : ℂ) - 1 / ((4 * j + 2).factorial : ℂ)) +
        (1 / ((4 * j + 1).factorial : ℂ) - 1 / ((4 * j + 3).factorial : ℂ)) * I) := by
  induction k with
  | zero => rfl
  | succ k ih =>
    have hpow : I ^ (4 * k) = 1 := by rw [pow_mul, I_pow_four, one_pow]
    rw [Nat.mul_succ, Finset.sum_range_succ, Finset.sum_range_succ, Finset.sum_range_succ, Finset.sum_range_succ, ih,
      Finset.sum_range_succ]
    simp only [pow_add, hpow, I_sq, I_pow_three, pow_one]
    ring

theorem sum_eq_uno : ∑ m ∈ Finset.range 20, I ^ m / (m.factorial : ℂ) = uno := by
  rw [show 20 = 4 * 5 from rfl, sum_exp_series, uno, cosUno, senUno, escala]
  simp only [Finset.sum_range_succ, Finset.sum_range_zero, Nat.factorial]
  push_cast
  ring

theorem norm_exp_sub_uno_le : ‖exp I - uno‖ ≤ 1 / 2 ^ 60 := by
  have hbound := exp_bound (x := I) (by rw [norm_I]) (n := 20) (by norm_num)
  rw [sum_eq_uno, norm_I, one_pow, one_mul] at hbound
  refine hbound.trans ?_
  norm_num [Nat.factorial]

/-! ## Powers -/

/-- The real and the imaginary part of a power of `cosUno + senUno * i`. -/
def potencia : Nat → Int × Int
  | 0 => (1, 0)
  | n + 1 =>
    let p := potencia n
    (p.1 * cosUno - p.2 * senUno, p.1 * senUno + p.2 * cosUno)

theorem potencia_eq (n : Nat) :
    ((potencia n).1 + (potencia n).2 * I : ℂ) / (escala : ℂ) ^ n = uno ^ n := by
  have hpow : ((potencia n).1 + (potencia n).2 * I : ℂ) = (cosUno + senUno * I : ℂ) ^ n := by
    induction n with
    | zero => simp [potencia]
    | succ n ih =>
      rw [pow_succ, ← ih, potencia]
      push_cast
      linear_combination (-((potencia n).2 : ℂ) * senUno) * I_sq
  rw [hpow, uno, div_pow]

/-- The error of a power is at most twice the sum of the errors of its factors. -/
theorem norm_pow_sub_pow_le {z w : ℂ} {ε : ℝ} (hz : ‖z‖ = 1) (hw : ‖z - w‖ ≤ ε) {n : Nat} (hn : 2 * n * ε ≤ 1) :
    ‖z ^ n - w ^ n‖ ≤ 2 * n * ε := by
  have hε : 0 ≤ ε := (norm_nonneg _).trans hw
  have hnorm : ‖w‖ ≤ 1 + ε := by
    have htri := norm_sub_le z (z - w)
    rw [sub_sub_cancel, hz] at htri
    linarith
  induction n with
  | zero => simp
  | succ n ih =>
    push_cast at hn ⊢
    have ih := ih (by nlinarith)
    have hsplit : z ^ (n + 1) - w ^ (n + 1) = z ^ n * (z - w) + (z ^ n - w ^ n) * w := by ring
    calc ‖z ^ (n + 1) - w ^ (n + 1)‖ ≤ ‖z ^ n * (z - w)‖ + ‖(z ^ n - w ^ n) * w‖ := by
          rw [hsplit]
          exact norm_add_le _ _
      _ = ‖z - w‖ + ‖z ^ n - w ^ n‖ * ‖w‖ := by rw [norm_mul, norm_mul, norm_pow, hz, one_pow, one_mul]
      _ ≤ ε + 2 * n * ε * (1 + ε) := by gcongr
      _ ≤ 2 * (n + 1) * ε := by nlinarith

/-- **The sine of a natural number**, from the power. -/
theorem abs_sin_sub_le {n : Nat} (hn : n ≤ 2 ^ 59) :
    |Real.sin n - (potencia n).2 / (escala : ℝ) ^ n| ≤ n / 2 ^ 59 := by
  have hexp : exp (n * I) = exp I ^ n := exp_nat_mul I n
  have hnorm : ‖exp I‖ = 1 := by simpa using norm_exp_ofReal_mul_I 1
  have hsmall : 2 * (n : ℝ) * (1 / 2 ^ 60) ≤ 1 := by
    have hcast : (n : ℝ) ≤ 2 ^ 59 := by exact_mod_cast hn
    calc 2 * (n : ℝ) * (1 / 2 ^ 60) ≤ 2 * 2 ^ 59 * (1 / 2 ^ 60) := by gcongr
      _ = 1 := by norm_num
  have herror := norm_pow_sub_pow_le hnorm norm_exp_sub_uno_le hsmall
  rw [← hexp, ← potencia_eq] at herror
  have him : (exp (n * I) - ((potencia n).1 + (potencia n).2 * I) / (escala : ℂ) ^ n).im =
      Real.sin n - (potencia n).2 / (escala : ℝ) ^ n := by
    have hdiv : ((potencia n).1 + (potencia n).2 * I : ℂ) / (escala : ℂ) ^ n =
        (((potencia n).1 / (escala : ℝ) ^ n : ℝ) : ℂ) + (((potencia n).2 / (escala : ℝ) ^ n : ℝ) : ℂ) * I := by
      push_cast
      ring
    rw [hdiv, show (n : ℂ) = ((n : ℝ) : ℂ) by norm_cast, exp_mul_I, ← ofReal_cos, ← ofReal_sin]
    simp only [sub_im, add_im, mul_I_im, ofReal_im, ofReal_re, zero_add]
  calc |Real.sin n - (potencia n).2 / (escala : ℝ) ^ n|
      ≤ ‖exp (n * I) - ((potencia n).1 + (potencia n).2 * I) / (escala : ℂ) ^ n‖ := him ▸ abs_im_le_norm _
    _ ≤ 2 * n * (1 / 2 ^ 60) := herror
    _ = n / 2 ^ 59 := by ring

/-! ## Integer parts -/

/-- `t` is the integer part of `N * |sin n|`, with room for the error. -/
def Certifica (N n t : Nat) : Prop :=
  t * 2 ^ 59 * escala ^ n + n * N * escala ^ n ≤ N * 2 ^ 59 * (potencia n).2.natAbs ∧
    N * 2 ^ 59 * (potencia n).2.natAbs + n * N * escala ^ n < (t + 1) * 2 ^ 59 * escala ^ n

instance (N n t : Nat) : Decidable (Certifica N n t) := by unfold Certifica; infer_instance

theorem Certifica.floor_eq {N n t : Nat} (hn : n ≤ 2 ^ 59) (h : Certifica N n t) :
    ⌊(N : ℝ) * |Real.sin n|⌋₊ = t := by
  obtain ⟨hlow, hhigh⟩ := h
  have hpos : (0 : ℝ) < (escala : ℝ) ^ n := pow_pos escala_pos n
  have hlow : (t * 2 ^ 59 * escala ^ n + n * N * escala ^ n : ℝ) ≤ N * 2 ^ 59 * |((potencia n).2 : ℝ)| := by
    rw [← Int.cast_abs, Int.abs_eq_natAbs, Int.cast_natCast]
    exact_mod_cast hlow
  have hhigh : (N * 2 ^ 59 * |((potencia n).2 : ℝ)| + n * N * escala ^ n : ℝ) < (t + 1) * 2 ^ 59 * escala ^ n := by
    rw [← Int.cast_abs, Int.abs_eq_natAbs, Int.cast_natCast]
    exact_mod_cast hhigh
  -- the absolute values are as near as the sine and its approximation
  have habs : |(|Real.sin n| - |((potencia n).2 : ℝ)| / (escala : ℝ) ^ n)| ≤ n / 2 ^ 59 := by
    have hquot : |((potencia n).2 : ℝ)| / (escala : ℝ) ^ n = |(potencia n).2 / (escala : ℝ) ^ n| := by
      rw [abs_div, abs_of_pos hpos]
    rw [hquot]
    exact (abs_abs_sub_abs_le _ _).trans (abs_sin_sub_le hn)
  obtain ⟨hbelow, habove⟩ := abs_le.mp habs
  rw [Nat.floor_eq_iff (by positivity)]
  constructor
  · have hq : (t : ℝ) + N * (n / 2 ^ 59) ≤ N * (|((potencia n).2 : ℝ)| / (escala : ℝ) ^ n) := by
      rw [mul_div_assoc', mul_div_assoc', le_div_iff₀ hpos]
      linarith
    nlinarith
  · have hq : N * (|((potencia n).2 : ℝ)| / (escala : ℝ) ^ n) + N * (n / 2 ^ 59) < (t : ℝ) + 1 := by
      rw [mul_div_assoc', mul_div_assoc', ← lt_sub_iff_add_lt, div_lt_iff₀ hpos]
      linarith
    nlinarith

end Seno
