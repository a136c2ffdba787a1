/-
How far rounding goes, and in which order.

The error is bounded on the measure that rounding takes of a number, and holds
of every correct rounding because there is only one.

Rounding keeps the order (`Magnitude.IsNearest.le`), and moves a number by at
most a part in `2 ^ 53`, or by half the least magnitude where the digits run out
(`Magnitude.IsNearest.abs_sub_le`). What has few enough binary digits is not
moved at all, wherever its last digit stands, and whole units are never below
the format's resolution, so there the part in `2 ^ 53` alone is the bound.
-/
import WorkedEquations.Proofs.Binary64.Exact

namespace WorkedEquations
namespace Magnitude

namespace Measured
variable {x : ℚ} {digits scale : Nat}

theorem abs_sub_le_half_step (h : Measured x digits scale) :
    |(digits : ℚ) * 2 ^ scale - x| ≤ 2 ^ scale / 2 := by
  have hstep : (0 : ℚ) < 2 ^ scale := by positivity
  have hsteps : (digits : ℚ) * 2 ^ scale - x = (digits - x / 2 ^ scale) * 2 ^ scale := by
    rw [sub_mul, div_mul_cancel₀ _ hstep.ne']
  rw [hsteps, abs_mul, abs_of_pos hstep]
  have := mul_le_mul_of_nonneg_right h.near hstep.le
  linarith

/-- Half a step is half a unit at the least scale, and a small part of the number above it. -/
theorem abs_sub_le (h : Measured x digits scale) :
    |(digits : ℚ) * 2 ^ scale - x| ≤ max (x / 2 ^ 53) (1 / 2) := by
  refine h.abs_sub_le_half_step.trans (le_max_iff.mpr ?_)
  rcases h.normal with rfl | hnormal
  · right
    norm_num
  · left
    linarith

theorem digits_eq (h : Measured x digits scale) {n : Nat} (hx : x = n * 2 ^ scale) : digits = n := by
  have hstep : (2 : ℚ) ^ scale ≠ 0 := by positivity
  have hnear := h.near
  rw [hx, mul_div_cancel_right₀ _ hstep] at hnear
  by_contra hne
  have hfar : (1 : ℚ) ≤ |(digits : ℚ) - n| := by
    have : (1 : ℤ) ≤ |(digits : ℤ) - n| := Int.one_le_abs (by omega)
    exact_mod_cast this
  linarith

end Measured

variable {q r : ℚ} {m n : Magnitude}

/-- **Rounding keeps the order.** -/
theorem IsNearest.le (hm : m.IsNearest q) (hn : n.IsNearest r) (h : q ≤ r) : m.value ≤ n.value := by
  by_contra hlt
  rw [not_le] at hlt
  -- Each of the two is at least as near to its own number, so the numbers stand the other way round.
  have above : m.value + n.value ≤ 2 * q := by
    have := sq_le_sq.mpr (hm.nearest n)
    nlinarith only [this, hlt]
  have below : 2 * r ≤ m.value + n.value := by
    have := sq_le_sq.mpr (hn.nearest m)
    nlinarith only [this, hlt]
  obtain rfl : q = r := by linarith
  rw [hm.unique hn] at hlt
  exact lt_irrefl _ hlt

theorem IsNearest.exists_measured (h : m.IsNearest q) (h0 : 0 ≤ q) :
    ∃ digits scale, Measured (q * one) digits scale ∧ m.units = digits * 2 ^ scale := by
  have hx : ((q * one).num.toNat : ℚ) / (q * one).den = q * one := by
    have hnum : ((q * one).num.toNat : ℚ) = (q * one).num := by
      have : 0 ≤ (q * one).num := Rat.num_nonneg.mpr (mul_nonneg h0 one_pos.le)
      exact_mod_cast Int.toNat_of_nonneg this
    rw [hnum, Rat.num_div_den]
  have hq : ((q * one).num.toNat : ℚ) / (q * one).den / one = q := by
    rw [hx, mul_div_cancel_right₀ _ one_pos.ne']
  cases hround : round? (q * one).num.toNat (q * one).den with
  | none =>
    rw [round?_eq_none_iff (q * one).den_pos, hq] at hround
    exact absurd h.in_range (not_lt_of_ge hround)
  | some n =>
    have hn := round?_isNearest (q * one).den_pos hround
    rw [hq] at hn
    obtain ⟨digits, scale, hmeasured, hunits, -⟩ := measured_of_round? (q * one).den_pos hround
    rw [hx] at hmeasured
    rw [h.unique hn]
    exact ⟨digits, scale, hmeasured, hunits⟩

theorem abs_value_sub (m : Magnitude) (q : ℚ) :
    |m.value - q| = |(m.units : ℚ) - q * one| / one := by
  rw [value, ← abs_of_pos one_pos, ← abs_div, abs_of_pos one_pos, sub_div,
    mul_div_cancel_right₀ _ one_pos.ne']

/-- **The error of rounding** is at most a part in `2 ^ 53`, or half the least magnitude. -/
theorem IsNearest.abs_sub_le (h : m.IsNearest q) (h0 : 0 ≤ q) :
    |m.value - q| ≤ max (q * (1 / 2 ^ 53)) (1 / 2 ^ 1075) := by
  obtain ⟨digits, scale, hmeasured, hunits⟩ := h.exists_measured h0
  have herror := hmeasured.abs_sub_le
  rw [abs_value_sub, div_le_iff₀ one_pos, max_mul_of_nonneg _ _ one_pos.le, hunits]
  have hhalf : (1 : ℚ) / 2 ^ 1075 * one = 1 / 2 := by
    rw [cast_one, pow_succ]
    field_simp
  rw [hhalf, mul_one_div, div_mul_eq_mul_div]
  push_cast
  exact herror

/-- **A number with few binary digits is exact,** wherever they stand. -/
theorem IsNearest.eq_of_steps (h : m.IsNearest q) {k t : Nat} (hk : k < 2 ^ 53)
    (hq : q * one = k * 2 ^ t) : m.value = q := by
  have h0 : 0 ≤ q := by
    have : 0 ≤ q * one := by rw [hq]; positivity
    exact nonneg_of_mul_nonneg_left this one_pos
  obtain ⟨digits, scale, hmeasured, hunits⟩ := h.exists_measured h0
  -- A scale above the last digit would leave too few digits for a normal number.
  have hle : scale ≤ t := by
    rcases hmeasured.normal with rfl | hnormal
    · exact Nat.zero_le t
    · by_contra hlt
      have hpow : (2 : ℚ) ^ t * 2 ≤ 2 ^ scale := by
        rw [← pow_succ]
        exact pow_le_pow_right₀ one_le_two (by omega)
      have hk' : (k : ℚ) < 2 ^ 53 := by exact_mod_cast hk
      have := mul_lt_mul_of_pos_right hk' (show (0 : ℚ) < 2 ^ t by positivity)
      rw [hq] at hnormal
      linarith
  obtain ⟨j, rfl⟩ := Nat.exists_eq_add_of_le hle
  have hdigits : digits = k * 2 ^ j := by
    refine hmeasured.digits_eq ?_
    rw [hq]
    push_cast
    rw [pow_add]
    ring
  have hvalue : (m.units : ℚ) = q * one := by
    rw [hunits, hdigits, hq, pow_add]
    push_cast
    ring
  rw [value, hvalue, mul_div_cancel_right₀ _ one_pos.ne']

/-- **Whole units** are rounded with a relative error only. -/
theorem IsNearest.abs_sub_le_of_units (h : m.IsNearest q) {k : Nat} (hq : q * one = k) :
    |m.value - q| ≤ q * (1 / 2 ^ 53) := by
  have h0 : 0 ≤ q := by
    have : 0 ≤ q * one := by rw [hq]; positivity
    exact nonneg_of_mul_nonneg_left this one_pos
  obtain ⟨digits, scale, hmeasured, hunits⟩ := h.exists_measured h0
  rw [abs_value_sub, div_le_iff₀ one_pos, hunits]
  push_cast
  rcases hmeasured.normal with rfl | hnormal
  · have hdigits : digits = k := hmeasured.digits_eq (by rw [hq, pow_zero, mul_one])
    rw [hdigits, hq, pow_zero, mul_one, sub_self, abs_zero]
    exact mul_nonneg (mul_nonneg h0 (by positivity)) one_pos.le
  · refine hmeasured.abs_sub_le_half_step.trans ?_
    linarith

end Magnitude
end WorkedEquations
