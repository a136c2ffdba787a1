/-
The shortest decimal of a magnitude rounds to that magnitude.

The search looks for a point of an interval, on whatever grid, so all that
counts is that every point of the interval rounds to the magnitude
(`isNearest_of_contains`). Where the search gives up, the decimal is exact.
Nothing is said here about how few digits there are.
-/
import WorkedEquations.Decimal.Shortest
import WorkedEquations.Proofs.Binary64.Exact

namespace WorkedEquations
namespace Decimal

/-- The number a decimal writes. -/
def value (d : Decimal) : ℚ := d.digits * 10 ^ d.exponent

/-! ## Points of an interval -/

namespace Interval

/-- The number lies in the interval, at an end only if the interval is closed. -/
def Contains (i : Interval) (q : ℚ) : Prop :=
  if i.closed then i.low ≤ q * i.den ∧ q * i.den ≤ i.high else i.low < q * i.den ∧ q * i.den < i.high

theorem holds_iff {i : Interval} {n : Nat} : i.holds n = true ↔ i.Contains n := by
  unfold holds Contains
  split
  · simp only [Bool.and_eq_true, decide_eq_true_eq]
    norm_cast
  · simp only [Bool.and_eq_true, decide_eq_true_eq]
    norm_cast

/-- Measuring in steps of a power of ten moves no number. -/
theorem contains_inSteps {i : Interval} {exponent : Int} {q : ℚ} :
    (i.inSteps exponent).Contains q ↔ i.Contains (q * 10 ^ exponent) := by
  unfold inSteps Contains
  cases exponent with
  | ofNat e =>
    have hden : q * (i.den * Nat.pow 10 e : Nat) = q * 10 ^ (Int.ofNat e) * i.den := by
      rw [Nat.pow_eq, Int.ofNat_eq_natCast, zpow_natCast]
      push_cast
      ring
    simp only [hden]
  | negSucc e =>
    have hpow : (0 : ℚ) < 10 ^ (e + 1) := by positivity
    have hvalue : q * 10 ^ Int.negSucc e * i.den = q * i.den / 10 ^ (e + 1) := by
      rw [zpow_negSucc]
      ring
    have hcast : ∀ n : Nat, ((n * Nat.pow 10 (e + 1) : Nat) : ℚ) = n * 10 ^ (e + 1) := by
      intro n
      rw [Nat.pow_eq]
      push_cast
      rfl
    simp only [hvalue, hcast, le_div_iff₀ hpow, div_le_iff₀ hpow, lt_div_iff₀ hpow, div_lt_iff₀ hpow]

theorem contains_of_pick? {i : Interval} {n : Nat} (h : i.pick? = some n) : i.Contains n := by
  rw [← holds_iff]
  unfold pick? at h
  cases hbelow : i.holds (i.value / i.den) <;> cases habove : i.holds (i.value / i.den + 1) <;>
    simp only [hbelow, habove, Option.some.injEq, reduceCtorEq] at h
  · rwa [← h]
  · rwa [← h]
  · rw [← h]
    split <;> assumption

theorem contains_of_searchGrids {i : Interval} {grids : Nat} {exponent : Int} {d : Decimal}
    (h : searchGrids i grids exponent = some d) : i.Contains d.value := by
  induction grids generalizing exponent with
  | zero => cases h
  | succ grids ih =>
    rw [searchGrids] at h
    split at h
    next n hn =>
      cases h
      exact contains_inSteps.mp (contains_of_pick? hn)
    · exact ih h

end Interval

/-! ## Rounding the points of a magnitude's interval -/

variable {m : Magnitude}

/-- Quarters of a step from a magnitude down to the end of its interval. -/
def gapBelow (m : Magnitude) : Nat := if m.digits = 2 ^ 52 ∧ m.scale ≠ 0 then 1 else 2

theorem shiftLeft_sub_mul (k scale one : Nat) :
    ((k * 1 <<< (scale - one) : Nat) : ℚ) * 2 ^ one =
      k * 2 ^ scale / 4 * (4 <<< (one - scale) : Nat) := by
  have hscale : (2 : ℚ) ^ (scale - one) * 2 ^ one = 2 ^ scale * 2 ^ (one - scale) := by
    rw [← pow_add, ← pow_add]
    congr 1
    omega
  rw [Nat.one_shiftLeft, Nat.shiftLeft_eq]
  push_cast
  rw [mul_assoc, hscale]
  ring

/-- The ends of the interval in units; they belong to it if the digits are even. -/
theorem bounds_of_contains {q : ℚ} (h0 : m.digits ≠ 0) (h : (Interval.ofMagnitude m).Contains q) :
    (m.digits - gapBelow m / 4) * 2 ^ m.scale ≤ q * Magnitude.one ∧
      q * Magnitude.one ≤ (m.digits + 1 / 2) * 2 ^ m.scale ∧
      (m.digits % 2 ≠ 0 → (m.digits - gapBelow m / 4) * 2 ^ m.scale < q * Magnitude.one ∧
        q * Magnitude.one < (m.digits + 1 / 2) * 2 ^ m.scale) := by
  -- The interval measures in units times `ratio`.
  obtain ⟨ratio, hratio⟩ : ∃ ratio : ℚ, ratio = (4 <<< (1074 - m.scale) : Nat) / Magnitude.one :=
    ⟨_, rfl⟩
  have hpos : 0 < ratio := by
    rw [hratio, Nat.shiftLeft_eq]
    exact div_pos (Nat.cast_pos.mpr (Nat.mul_pos (by decide) (Nat.two_pow_pos _))) Magnitude.one_pos
  have hquarters : ∀ k : Nat, ((k * 1 <<< (m.scale - 1074) : Nat) : ℚ) =
      k * 2 ^ m.scale / 4 * ratio := by
    intro k
    rw [hratio, ← mul_div_assoc, eq_div_iff Magnitude.one_pos.ne', Magnitude.cast_one]
    exact shiftLeft_sub_mul k m.scale 1074
  have hvalue : q * ((4 <<< (1074 - m.scale) : Nat) : ℚ) = q * Magnitude.one * ratio := by
    rw [hratio, mul_assoc, mul_div_cancel₀ _ Magnitude.one_pos.ne']
  have hbelow : gapBelow m ≤ 4 * m.digits := by
    unfold gapBelow
    split <;> omega
  have hlow : ((4 * m.digits - gapBelow m : Nat) : ℚ) * 2 ^ m.scale / 4 =
      (m.digits - gapBelow m / 4) * 2 ^ m.scale := by
    rw [Nat.cast_sub hbelow]
    push_cast
    ring
  have hhigh : ((4 * m.digits + 2 : Nat) : ℚ) * 2 ^ m.scale / 4 =
      (m.digits + 1 / 2) * 2 ^ m.scale := by
    push_cast
    ring
  have hlow' : ((Interval.ofMagnitude m).low : ℚ) =
      (m.digits - gapBelow m / 4) * 2 ^ m.scale * ratio := by
    rw [← hlow, ← hquarters]
    rfl
  have hhigh' : ((Interval.ofMagnitude m).high : ℚ) = (m.digits + 1 / 2) * 2 ^ m.scale * ratio := by
    rw [← hhigh, ← hquarters]
    rfl
  have hden : q * ((Interval.ofMagnitude m).den : ℚ) = q * Magnitude.one * ratio := hvalue
  rw [Interval.Contains, hlow', hhigh', hden, mul_le_mul_iff_left₀ hpos, mul_le_mul_iff_left₀ hpos,
    mul_lt_mul_iff_left₀ hpos, mul_lt_mul_iff_left₀ hpos] at h
  have hclosed : (Interval.ofMagnitude m).closed = decide (m.digits % 2 = 0) := rfl
  rw [hclosed] at h
  by_cases heven : m.digits % 2 = 0
  · rw [if_pos (decide_eq_true heven)] at h
    exact ⟨h.1, h.2, fun hodd => absurd heven hodd⟩
  · rw [if_neg (by simpa using heven)] at h
    exact ⟨h.1.le, h.2.le, fun _ => h⟩

/-- Away from a power of two: the digits are the nearest whole number of steps. -/
theorem measured_of_bounds {y : ℚ} (hlow : m.digits - 1 / 2 ≤ y) (hhigh : y ≤ m.digits + 1 / 2)
    (hodd : m.digits % 2 ≠ 0 → m.digits - 1 / 2 < y ∧ y < m.digits + 1 / 2)
    (hpower : m.digits = 2 ^ 52 → m.scale ≠ 0 → m.digits ≤ y) :
    Magnitude.Measured (y * 2 ^ m.scale) m.digits m.scale := by
  have hstep : (0 : ℚ) < 2 ^ m.scale := by positivity
  have hy : y * 2 ^ m.scale / 2 ^ m.scale = y := mul_div_cancel_right₀ _ hstep.ne'
  have hdigits : (m.digits : ℚ) ≤ (2 ^ 53 - 1 : Nat) :=
    Nat.cast_le.mpr (Nat.le_pred_of_lt m.digits_lt_two_pow)
  push_cast at hdigits
  refine ⟨?_, ?_, ?_, ?_⟩
  · exact mul_le_mul_of_nonneg_right (by linarith) hstep.le
  · refine m.scale.eq_zero_or_pos.imp_right fun hscale => ?_
    refine mul_le_mul_of_nonneg_right ?_ hstep.le
    rcases (Magnitude.two_pow_le_digits hscale).eq_or_lt with heq | hlt
    · have h := hpower heq.symm hscale.ne'
      rw [← heq] at h
      push_cast at h
      exact h
    · have h : ((2 ^ 52 + 1 : Nat) : ℚ) ≤ m.digits := Nat.cast_le.mpr hlt
      push_cast at h
      linarith
  · rw [hy, abs_le]
    constructor <;> linarith
  · rw [hy]
    intro htie
    by_contra hne
    obtain ⟨hlow, hhigh⟩ := hodd hne
    have hlt : |(m.digits : ℚ) - y| < 1 / 2 := abs_lt.mpr ⟨by linarith, by linarith⟩
    exact hlt.ne htie

/-- Just below a power of two steps are half as wide, and the digits carry. -/
theorem measured_below_power {y : ℚ} {scale : Nat} (hlow : 2 ^ 52 - 1 / 4 ≤ y) (hhigh : y < 2 ^ 52) :
    Magnitude.Measured (y * 2 ^ (scale + 1)) (2 ^ 53) scale := by
  have hstep : (0 : ℚ) < 2 ^ scale := by positivity
  have hy : y * 2 ^ (scale + 1) = 2 * y * 2 ^ scale := by ring
  have hsteps : y * 2 ^ (scale + 1) / 2 ^ scale = 2 * y := by
    rw [hy, mul_div_cancel_right₀ _ hstep.ne']
  refine ⟨?_, .inr ?_, ?_, fun _ => by decide⟩
  · rw [hy]
    exact mul_le_mul_of_nonneg_right (by linarith) hstep.le
  · rw [hy]
    exact mul_le_mul_of_nonneg_right (by linarith) hstep.le
  · rw [hsteps, abs_le]
    push_cast
    constructor <;> linarith

/-- **Every number in the interval of a magnitude rounds to the magnitude.** -/
theorem isNearest_of_contains {q : ℚ} (h0 : m.digits ≠ 0)
    (h : (Interval.ofMagnitude m).Contains q) : m.IsNearest q := by
  obtain ⟨hlow, hhigh, hodd⟩ := bounds_of_contains h0 h
  have hstep : (0 : ℚ) < 2 ^ m.scale := by positivity
  obtain ⟨y, rfl⟩ : ∃ y, q = y * 2 ^ m.scale / Magnitude.one :=
    ⟨q * Magnitude.one / 2 ^ m.scale, by
      rw [div_mul_cancel₀ _ hstep.ne', mul_div_cancel_right₀ _ Magnitude.one_pos.ne']⟩
  rw [div_mul_cancel₀ _ Magnitude.one_pos.ne', mul_le_mul_iff_left₀ hstep] at hlow hhigh
  rw [div_mul_cancel₀ _ Magnitude.one_pos.ne', mul_lt_mul_iff_left₀ hstep,
    mul_lt_mul_iff_left₀ hstep] at hodd
  have hgap : (gapBelow m : ℚ) ≤ 2 := by
    have h : gapBelow m ≤ 2 := by unfold gapBelow; split <;> decide
    exact_mod_cast h
  have hdigits := m.digits_lt_two_pow
  have hscale := m.scale_le
  by_cases hpower : m.digits = 2 ^ 52 ∧ m.scale ≠ 0 ∧ y < m.digits
  · obtain ⟨hpow, hne, hlt⟩ := hpower
    have hgap : gapBelow m = 1 := if_pos ⟨hpow, hne⟩
    obtain ⟨scale, hs⟩ : ∃ scale, m.scale = scale + 1 := Nat.exists_eq_succ_of_ne_zero hne
    rw [hgap, hpow] at hlow
    rw [hpow] at hlt
    push_cast at hlow hlt
    have hmeasured : Magnitude.Measured (y * 2 ^ m.scale) (2 ^ 53) scale := by
      rw [hs]
      exact measured_below_power hlow hlt
    have hunits : m.units = 2 ^ 53 * 2 ^ scale := by
      rw [Magnitude.units_eq, hpow, hs, Nat.pow_succ]
      ring
    exact hmeasured.isNearest hunits (fun _ => by rw [hpow]; decide)
      (hmeasured.lt_overflow (.inl (by omega)))
  · have hmeasured : Magnitude.Measured (y * 2 ^ m.scale) m.digits m.scale := by
      refine measured_of_bounds (by linarith) hhigh (fun hne => ?_) fun hpow hne => ?_
      · obtain ⟨hlow, hhigh⟩ := hodd hne
        exact ⟨by linarith, hhigh⟩
      · exact le_of_not_gt fun hlt => hpower ⟨hpow, hne, hlt⟩
    exact hmeasured.isNearest (Magnitude.units_eq m) id (hmeasured.lt_overflow (by omega))

/-! ## The shortest decimal -/

theorem value_mul_pow_five (units n : Nat) :
    value ⟨units * Nat.pow 5 n, -n⟩ = units / 2 ^ n := by
  have hten : (10 : ℚ) ^ n = 2 ^ n * 5 ^ n := by rw [← mul_pow]; norm_num
  rw [value, Nat.pow_eq, zpow_neg, zpow_natCast, hten]
  push_cast
  field_simp

/-- Where the search gives up, the decimal is exact. -/
theorem value_ofMagnitude (m : Magnitude) : (ofMagnitude m).value = m.value := by
  have hexponent : -((1074 : Nat) : Int) = -1074 := by decide
  rw [Magnitude.value, Magnitude.cast_one, ofMagnitude, ← hexponent]
  exact value_mul_pow_five _ _

/-- **The shortest decimal rounds to the magnitude.** -/
theorem isNearest_shortest (m : Magnitude) : m.IsNearest (shortest m).value := by
  unfold shortest
  split
  next h0 =>
    have hzero : m = .zero := Magnitude.units_injective (by
      rw [Magnitude.units_eq, h0, Nat.zero_mul]
      rfl)
    have hvalue : (⟨0, 0⟩ : Decimal).value = m.value := by
      rw [hzero, Magnitude.value_zero, value, Nat.cast_zero, zero_mul]
    rw [hvalue]
    exact m.isNearest_value
  next h0 =>
    cases hsearch : searchGrids (.ofMagnitude m) 24 (topExponent m) with
    | none =>
      rw [Option.getD_none, value_ofMagnitude]
      exact m.isNearest_value
    | some d => exact isNearest_of_contains h0 (Interval.contains_of_searchGrids hsearch)

end Decimal
end WorkedEquations
