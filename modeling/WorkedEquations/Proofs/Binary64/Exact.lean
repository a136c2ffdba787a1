/-
Numbers of the format are exact: rounding leaves them as they are.

The units of a magnitude round to that magnitude (`ofQuotient_units`). So adding
zero takes the minus from a zero and changes nothing else (`add_zero_eq`), and
no value that ends with it is a negative zero.
-/
import WorkedEquations.Proofs.Binary64.Nearest
import WorkedEquations.Binary64.Arithmetic

namespace WorkedEquations

namespace Magnitude

theorem value_zero : zero.value = 0 := by
  rw [value, show zero.units = 0 from rfl, Nat.cast_zero, zero_div]

/-- Half a step above the largest magnitude is more than a half, so there is room for that much. -/
theorem value_add_half_lt_overflow (m : Magnitude) : m.value + 1 / 2 < overflow := by
  have hdigits : (m.digits : ℚ) + 1 ≤ 2 ^ 53 := by
    rw [← cast_two_pow]
    exact_mod_cast m.digits_lt_two_pow
  have hscale : (2 : ℚ) ^ m.scale ≤ 2 ^ 2045 := pow_le_pow_right₀ one_le_two m.scale_le
  have hvalue : m.value ≤ (2 ^ 53 - 1) * (2 * 2 ^ 970) := by
    rw [value, div_le_iff₀ one_pos, cast_one, units_eq, Nat.cast_mul, cast_two_pow, mul_assoc,
      ← pow_succ', ← pow_add]
    exact mul_le_mul (by linarith) hscale (by positivity) (by norm_num)
  have hroom : (1 : ℚ) ≤ 2 ^ 970 := one_le_pow₀ one_le_two
  unfold overflow
  generalize (2 : ℚ) ^ 970 = a at *
  linarith only [hvalue, hroom]

theorem isNearest_value (m : Magnitude) : m.IsNearest m.value where
  in_range := by
    have h := m.value_add_half_lt_overflow
    linarith
  nearest n := by
    rw [sub_self, abs_zero]
    exact abs_nonneg _
  even n hne h := by
    rw [sub_self, abs_zero, eq_comm, abs_eq_zero, sub_eq_zero] at h
    exact absurd (value_injective h) hne

end Magnitude

namespace Binary64

/-- **A number of the format is its own rounding.** -/
theorem ofQuotient_units (negative : Bool) (m : Magnitude) :
    ofQuotient negative m.units 1 = .finite negative m := by
  have h := ofQuotient_isRounding negative m.units Nat.one_pos
  rw [Nat.cast_one, div_one] at h
  exact h.unique (.finite m.isNearest_value)

theorem zero_eq : (0 : Binary64) = .signedZero false := by
  have hzero : (signedZero false).IsRounding false 0 := by
    rw [← Magnitude.value_zero]
    exact .finite Magnitude.zero.isNearest_value
  exact zero_isRounding.unique hzero

/-- **Adding zero** takes the minus from a zero and changes nothing else. -/
theorem add_zero_eq (x : Binary64) :
    x + 0 = if x = .signedZero true then .signedZero false else x := by
  rw [zero_eq]
  cases x with
  | nan => rfl
  | infinite s => rfl
  | finite s m =>
    change add (.finite s m) (.finite false .zero) = _
    have hsum : signed s m.units + signed false Magnitude.zero.units = signed s m.units := by
      simp [signed, Magnitude.units, Magnitude.zero]
    simp only [add, hsum]
    by_cases hm : m.units = 0
    · obtain rfl : m = .zero := Magnitude.units_injective hm
      cases s <;> simp [signed, signedZero, hm]
    · have hne : m ≠ .zero := by
        rintro rfl
        exact hm rfl
      have hsigned : signed s m.units ≠ 0 := by cases s <;> simpa [signed] using hm
      have hneg : decide (signed s m.units < 0) = s := by
        cases s <;> simp [signed]
        omega
      have habs : (signed s m.units).natAbs = m.units := by cases s <;> simp [signed]
      rw [if_neg hsigned, hneg, habs, ofQuotient_units, if_neg]
      simp [signedZero, hne]

theorem add_zero_ne_signedZero (x : Binary64) : x + 0 ≠ .signedZero true := by
  rw [add_zero_eq]
  split
  · simp [signedZero]
  · assumption

end Binary64
end WorkedEquations
