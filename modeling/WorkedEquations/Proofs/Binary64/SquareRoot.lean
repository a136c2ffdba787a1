/-
The square root, by its square.

A root is irrational as a rule, so it is not compared with an exact value of its
own: what is said of it is how far its square is from the number. No root
reaches the range where digits run out, so that distance is relative.

The whole part of a root is found digit by digit (`floorSqrt_spec`), and with it
the square of the root is the number up to four parts in `2 ^ 53`
(`Binary64.sqrt_sq_sub_le`).
-/
import WorkedEquations.Proofs.Binary64.Value

namespace WorkedEquations

/-! ## The whole part of a root -/

/-- One pair of binary digits more gives one digit of the root more. -/
theorem floorSqrtBelow_spec {pairs n : Nat} (h : n < 4 ^ pairs) :
    floorSqrtBelow pairs n * floorSqrtBelow pairs n ≤ n ∧
      n < (floorSqrtBelow pairs n + 1) * (floorSqrtBelow pairs n + 1) := by
  induction pairs generalizing n with
  | zero =>
    obtain rfl : n = 0 := by simpa using h
    decide
  | succ pairs ih =>
    have hquarter : n / 4 < 4 ^ pairs := by
      rw [Nat.div_lt_iff_lt_mul (by decide), ← Nat.pow_succ]
      exact h
    obtain ⟨hle, hlt⟩ := ih hquarter
    rw [floorSqrtBelow]
    generalize floorSqrtBelow pairs (n / 4) = root at hle hlt
    have hlow : 2 * root * (2 * root) ≤ n := by
      have : 2 * root * (2 * root) = 4 * (root * root) := by ring
      omega
    have hhigh : n < (2 * root + 2) * (2 * root + 2) := by
      have : (2 * root + 2) * (2 * root + 2) = 4 * ((root + 1) * (root + 1)) := by ring
      omega
    split
    · next hodd => exact ⟨hodd, hhigh⟩
    · next heven => exact ⟨hlow, not_le.mp heven⟩

theorem floorSqrt_spec (n : Nat) :
    floorSqrt n * floorSqrt n ≤ n ∧ n < (floorSqrt n + 1) * (floorSqrt n + 1) := by
  refine floorSqrtBelow_spec ?_
  calc n < 2 ^ (n.log2 + 1) := Nat.lt_log2_self
    _ ≤ 2 ^ (2 * (n.log2 / 2 + 1)) := Nat.pow_le_pow_right (by decide) (by omega)
    _ = 4 ^ (n.log2 / 2 + 1) := by rw [Nat.pow_mul]

namespace Binary64

open Magnitude (one)

/-! ## The root in units -/

/-- What stands for the root of a whole number: its whole part, and a half for what follows. -/
def rootOf (square : Nat) : ℚ :=
  if floorSqrt square * floorSqrt square = square then floorSqrt square else floorSqrt square + 1 / 2

theorem rootOf_sq_sub_le (square : Nat) : |rootOf square ^ 2 - square| ≤ floorSqrt square := by
  obtain ⟨hle, hlt⟩ := floorSqrt_spec square
  unfold rootOf
  generalize floorSqrt square = root at hle hlt
  split
  · next h =>
    have hsquare : (root : ℚ) ^ 2 = square := by
      rw [← h]
      push_cast
      ring
    rw [hsquare, sub_self, abs_zero]
    exact Nat.cast_nonneg root
  · next h =>
    have hlow : (root : ℚ) * root + 1 ≤ square := by exact_mod_cast (by omega : root * root + 1 ≤ square)
    have hhigh : (square : ℚ) + 1 ≤ (root + 1) * (root + 1) := by exact_mod_cast hlt
    rw [abs_le]
    constructor <;> linarith

theorem le_rootOf (square : Nat) : (floorSqrt square : ℚ) ≤ rootOf square := by
  unfold rootOf
  split
  · exact le_rfl
  · linarith

section
variable {x : Binary64} (hx : x.isFinite = true) (h0 : 0 < x.toRat)
include hx h0

theorem exists_units_of_pos : ∃ m : Magnitude, x = finite false m ∧ m.digits ≠ 0 ∧ 1 ≤ m.units := by
  obtain ⟨s, m, rfl⟩ := isFinite_iff.mp hx
  have hvalue := value_nonneg m
  cases s with
  | true =>
    rw [toRat_finite, signOf_true_mul] at h0
    linarith
  | false =>
    have hunits : m.units ≠ 0 := by
      intro h
      rw [toRat_finite, Magnitude.value, h, Nat.cast_zero, zero_div, mul_zero] at h0
      exact lt_irrefl _ h0
    refine ⟨m, rfl, fun h => ?_, Nat.pos_of_ne_zero hunits⟩
    rw [Magnitude.units_eq, h, Nat.zero_mul] at hunits
    exact hunits rfl

/-- **The root is rounded once,** from a number whose square is all but exact. -/
theorem sqrt_rounds : ∃ q : ℚ, 1 / 2 ^ 537 ≤ q ∧ x.sqrt.Rounds q ∧
    |q ^ 2 - x.toRat| ≤ x.toRat * (1 / 2 ^ 537) := by
  obtain ⟨m, rfl, hdigits, hunits⟩ := exists_units_of_pos hx h0
  have hone := Magnitude.one_pos
  have hpow : (2 : ℚ) ^ 537 * 2 ^ 537 = one := by rw [Magnitude.cast_one, ← pow_add]
  -- The square is at least that of `2 ^ 537`, so what follows the whole part is little beside it.
  have hroot : 2 ^ 537 ≤ floorSqrt (m.units * one) := by
    by_contra hlt
    have hsquare := (floorSqrt_spec (m.units * one)).2
    have hone' : 2 ^ 537 * 2 ^ 537 = one := by
      refine Nat.cast_injective (R := ℚ) ?_
      rw [Nat.cast_mul, Magnitude.cast_two_pow, hpow]
    have hle := Nat.mul_le_mul (not_le.mp hlt) (not_le.mp hlt)
    have hbase := Nat.mul_le_mul_right one hunits
    rw [hone'] at hle
    simp only [Nat.succ_eq_add_one] at hle
    omega
  have hrootq : (2 : ℚ) ^ 537 ≤ floorSqrt (m.units * one) := by
    have := Nat.cast_le (α := ℚ).mpr hroot
    rwa [Magnitude.cast_two_pow] at this
  have hlow := le_rootOf (m.units * one)
  have herror := rootOf_sq_sub_le (m.units * one)
  have hsquare : ((floorSqrt (m.units * one) * floorSqrt (m.units * one) : Nat) : ℚ) ≤
      (m.units * one : Nat) := Nat.cast_le.mpr (floorSqrt_spec (m.units * one)).1
  push_cast at herror hsquare
  refine ⟨rootOf (m.units * one) / one, ?_, ?_, ?_⟩
  · rw [le_div_iff₀ hone, ← hpow, ← mul_assoc, one_div_mul_cancel (by positivity), one_mul]
    exact hrootq.trans hlow
  · have hsqrt : (finite false m).sqrt = if floorSqrt (m.units * one) * floorSqrt (m.units * one) =
        m.units * one then ofQuotient false (floorSqrt (m.units * one)) 1
        else ofQuotient false (2 * floorSqrt (m.units * one) + 1) 2 := by
      simp only [sqrt, if_neg hdigits, Bool.false_eq_true, if_false]
    rw [hsqrt]
    unfold rootOf
    split
    · have h := rounds_ofQuotient false (floorSqrt (m.units * one)) Nat.one_pos
      rwa [Nat.cast_one, div_one, signOf_false_mul] at h
    · have h := rounds_ofQuotient false (2 * floorSqrt (m.units * one) + 1) two_pos
      have hhalf : ((2 * floorSqrt (m.units * one) + 1 : Nat) : ℚ) / (2 : Nat) =
          floorSqrt (m.units * one) + 1 / 2 := by
        push_cast
        ring
      rwa [hhalf, signOf_false_mul] at h
  · have hdiff : (rootOf (m.units * one) / one) ^ 2 - (finite false m).toRat =
        (rootOf (m.units * one) ^ 2 - m.units * one) / one ^ 2 := by
      rw [toRat_finite, signOf_false_mul, Magnitude.value]
      field_simp
    have hvalue : (finite false m).toRat = m.units * one / one ^ 2 := by
      rw [toRat_finite, signOf_false_mul, Magnitude.value]
      field_simp
    have hone2 : (0 : ℚ) < one ^ 2 := pow_pos hone 2
    rw [hdiff, hvalue, abs_div, abs_of_pos hone2, div_mul_eq_mul_div, div_le_div_iff_of_pos_right hone2,
      mul_one_div, le_div_iff₀ (by positivity)]
    calc |rootOf (m.units * one) ^ 2 - m.units * one| * 2 ^ 537
        ≤ floorSqrt (m.units * one) * floorSqrt (m.units * one) :=
          mul_le_mul herror hrootq (by positivity) (Nat.cast_nonneg _)
      _ ≤ m.units * one := hsquare

/-- **The square of a root** is the number up to four parts in `2 ^ 53`. -/
theorem sqrt_sq_sub_le (h : x.sqrt.isFinite = true) :
    0 ≤ x.sqrt.toRat ∧ |x.sqrt.toRat ^ 2 - x.toRat| ≤ x.toRat * (4 * roundoff) := by
  obtain ⟨q, hq, hrounds, hsquare⟩ := sqrt_rounds hx h0
  have hq0 : 0 < q := lt_of_lt_of_le (by positivity) hq
  have herror := hrounds.abs_sub_le_max h
  -- The root is far above the range where digits run out.
  have hnormal : underflow ≤ q * roundoff := by
    have hsplit : underflow = 1 / 2 ^ 485 * (1 / 2 ^ 537 * roundoff) := by
      rw [roundoff, one_div_mul_one_div, ← pow_add]
      exact underflow_eq_mul rfl
    have hscale : (1 : ℚ) / 2 ^ 485 ≤ 1 := by
      rw [div_le_one (by positivity)]
      exact one_le_pow₀ one_le_two
    have hroundoff : 0 ≤ roundoff := by norm_num [roundoff]
    have hpart : (0 : ℚ) ≤ 1 / 2 ^ 537 * roundoff := mul_nonneg (by positivity) hroundoff
    rw [hsplit]
    exact (mul_le_of_le_one_left hpart hscale).trans (mul_le_mul_of_nonneg_right hq hroundoff)
  rw [abs_of_pos hq0, max_eq_left hnormal] at herror
  have hsmall : (1 : ℚ) / 2 ^ 537 ≤ roundoff := by
    rw [roundoff]
    exact one_div_le_one_div_of_le (by positivity) (pow_le_pow_right₀ one_le_two (by decide))
  have hroundoff : roundoff ≤ 1 / 100 := by norm_num [roundoff]
  have hroundoff0 : 0 < roundoff := by norm_num [roundoff]
  generalize roundoff = u at *
  generalize (1 : ℚ) / 2 ^ 537 = e at *
  generalize x.sqrt.toRat = root at *
  generalize x.toRat = number at *
  obtain ⟨hbelow, habove⟩ := abs_le.mp herror
  have hqu : q * u ≤ q * (1 / 100) := mul_le_mul_of_nonneg_left hroundoff hq0.le
  refine ⟨by linarith, ?_⟩
  have hsum : |root + q| ≤ q * (2 + u) := by
    rw [abs_of_nonneg (by linarith)]
    linarith
  have hroot : |root ^ 2 - q ^ 2| ≤ q ^ 2 * (2 * u + u ^ 2) := by
    rw [sq_sub_sq, abs_mul]
    calc |root + q| * |root - q| ≤ q * (2 + u) * (q * u) :=
          mul_le_mul hsum herror (abs_nonneg _) ((abs_nonneg _).trans hsum)
      _ = q ^ 2 * (2 * u + u ^ 2) := by ring
  have hq2 : q ^ 2 ≤ number * (1 + e) := by
    have := (abs_le.mp hsquare).2
    linarith
  have hparts : (1 + e) * (2 * u + u ^ 2) + e ≤ 4 * u := by nlinarith only [hsmall, hroundoff, hroundoff0]
  calc |root ^ 2 - number| ≤ |root ^ 2 - q ^ 2| + |q ^ 2 - number| := abs_sub_le _ _ _
    _ ≤ number * (1 + e) * (2 * u + u ^ 2) + number * e :=
        add_le_add (hroot.trans (mul_le_mul_of_nonneg_right hq2 (by positivity))) hsquare
    _ = number * ((1 + e) * (2 * u + u ^ 2) + e) := by ring
    _ ≤ number * (4 * u) := mul_le_mul_of_nonneg_left hparts h0.le

end

end Binary64
end WorkedEquations
