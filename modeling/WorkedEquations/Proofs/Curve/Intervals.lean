/-
How many steps a window takes, in exact numbers.

The count is a quotient rounded twice: to a number of the format, then to the
nearest whole number, a half upward. For positive sizes both roundings are
settled here, so that nothing else opens the count.

The count is the whole number nearest the rounded quotient
(`Window.Proper.intervals?_eq_some_iff`). There is one exactly if twice the half
width is in range and the exact quotient lies below half a step of the format
under 10000.5 (`Window.Proper.isSome_intervals?_iff`), and that many steps miss
the width by half a step at most, up to rounding
(`Window.Proper.abs_mul_step_sub_le`).
-/
import WorkedEquations.Curve.Window
import WorkedEquations.Proofs.Binary64.Range

namespace WorkedEquations

open Binary64 (roundoff underflow)

/-! ## The nearest whole number, a half upward -/

theorem nearestUp_eq_iff (num : Nat) {den n : Nat} (hd : 0 < den) :
    nearestUp num den = n ↔ (n : ℚ) - 1 / 2 ≤ num / den ∧ (num : ℚ) / den < n + 1 / 2 := by
  have hd' : (0 : ℚ) < den := by exact_mod_cast hd
  have hlow : (n : ℚ) - 1 / 2 ≤ num / den ↔ n * (2 * den) ≤ 2 * num + den := by
    rw [le_div_iff₀ hd', ← Nat.cast_le (α := ℚ)]
    push_cast
    constructor <;> intro h <;> linarith
  have hhigh : (num : ℚ) / den < n + 1 / 2 ↔ 2 * num + den < (n + 1) * (2 * den) := by
    rw [div_lt_iff₀ hd', ← Nat.cast_lt (α := ℚ)]
    push_cast
    constructor <;> intro h <;> linarith
  rw [hlow, hhigh, nearestUp, ← Nat.le_div_iff_mul_le (by omega), ← Nat.div_lt_iff_lt_mul (by omega)]
  omega

namespace Window

theorem roundToNat?_eq_some_iff {x : Binary64} {n : Nat} (h0 : 0 ≤ x.toRat) :
    roundToNat? x = some n ↔
      x.isFinite = true ∧ (n : ℚ) - 1 / 2 ≤ x.toRat ∧ x.toRat < n + 1 / 2 := by
  cases x with
  | nan | infinite => simp [roundToNat?, Binary64.isFinite]
  | finite s m =>
    have hvalue : (Binary64.finite s m).toRat = m.units / Magnitude.one := by
      rw [← Magnitude.value, ← abs_of_nonneg h0, Binary64.toRat_finite,
        Binary64.abs_signOf_mul s (Binary64.value_nonneg m)]
    have hone : 0 < Magnitude.one := by exact_mod_cast Magnitude.one_pos
    rw [hvalue, ← nearestUp_eq_iff _ hone, roundToNat?, Option.some_inj]
    exact (and_iff_right rfl).symm

/-! ## The count -/

/-- A window with positive numbers for sizes, of which the step is not the greater one. -/
structure Proper (w : Window) : Prop where
  halfWidth_finite : w.halfWidth.isFinite = true
  step_finite : w.step.isFinite = true
  step_pos : 0 < w.step.toRat
  step_le : w.step.toRat ≤ w.halfWidth.toRat

/-- The width in steps. -/
def exactQuotient (w : Window) : ℚ := 2 * w.halfWidth.toRat / w.step.toRat

/-- The width in steps, as it is computed. -/
def quotient (w : Window) : Binary64 := 2 * w.halfWidth / w.step

/-- The window takes `n` steps: the quotient is in range, and `n` is the whole number nearest it. -/
structure Counted (w : Window) (n : Nat) : Prop where
  finite : w.quotient.isFinite = true
  le_quotient : (n : ℚ) - 1 / 2 ≤ w.quotient.toRat
  quotient_lt : w.quotient.toRat < n + 1 / 2
  le_maxIntervals : n ≤ maxIntervals

namespace Proper
variable {w : Window} {n : Nat} (hw : w.Proper)
include hw

theorem halfWidth_pos : 0 < w.halfWidth.toRat := hw.step_pos.trans_le hw.step_le

theorem rounds_quotient (h : (2 * w.halfWidth).isFinite = true) :
    w.quotient.Rounds w.exactQuotient := by
  have hround := Binary64.rounds_div h hw.step_finite hw.step_pos.ne'
  rwa [Binary64.toRat_two_mul h] at hround

theorem two_le_exactQuotient : 2 ≤ w.exactQuotient := by
  rw [exactQuotient, le_div_iff₀ hw.step_pos]
  linarith [hw.step_le]

theorem two_le_quotient (h : w.quotient.isFinite = true) : 2 ≤ w.quotient.toRat := by
  have htwo := Binary64.rounds_toRat Binary64.isFinite_two
  rw [Binary64.toRat_two] at htwo
  have hround := hw.rounds_quotient (Binary64.isFinite_of_div h)
  have hle := htwo.le hround Binary64.isFinite_two h hw.two_le_exactQuotient
  rwa [Binary64.toRat_two] at hle

theorem quotient_nonneg : 0 ≤ w.quotient.toRat := by
  by_cases h : w.quotient.isFinite = true
  · exact two_pos.le.trans (hw.two_le_quotient h)
  · cases hq : w.quotient with
    | nan | infinite => exact le_rfl
    | finite s m => exact absurd (by rw [hq]; rfl) h

/-- **The count is the whole number nearest the quotient.** -/
theorem intervals?_eq_some_iff : w.intervals? = some n ↔ w.Counted n := by
  have hpos : 0 < w.halfWidth ∧ 0 < w.step :=
    ⟨(Binary64.pos_iff_toRat hw.halfWidth_finite).mpr hw.halfWidth_pos,
      (Binary64.pos_iff_toRat hw.step_finite).mpr hw.step_pos⟩
  have hcount := roundToNat?_eq_some_iff (n := n) hw.quotient_nonneg
  rw [quotient] at hcount
  rw [intervals?, if_pos hpos, Option.filter_eq_some_iff, decide_eq_true_eq, hcount]
  exact ⟨fun ⟨⟨h, hlow, hhigh⟩, hle⟩ => ⟨h, hlow, hhigh, hle⟩,
    fun h => ⟨⟨h.finite, h.le_quotient, h.quotient_lt⟩, h.le_maxIntervals⟩⟩

theorem two_le_count (h : w.Counted n) : 2 ≤ n := by
  have hlow := hw.two_le_quotient h.finite
  have hhigh := h.quotient_lt
  have : (1 : ℚ) < n := by linarith
  exact_mod_cast this

/-- **So many steps are as wide as the window,** up to half a step and what the quotient was
rounded by. -/
theorem abs_mul_step_sub_le (h : w.Counted n) :
    |n * w.step.toRat - 2 * w.halfWidth.toRat| ≤
      w.step.toRat / 2 + w.halfWidth.toRat / 2 ^ 52 := by
  have hround := hw.rounds_quotient (Binary64.isFinite_of_div h.finite)
  have herror := hround.abs_sub_le_max h.finite
  have htwo := hw.two_le_exactQuotient
  have hexact : w.exactQuotient * w.step.toRat = 2 * w.halfWidth.toRat :=
    div_mul_cancel₀ _ hw.step_pos.ne'
  have hlow := h.le_quotient
  have hhigh := h.quotient_lt
  have hstep := hw.step_pos
  have hsmall : underflow ≤ 1 / 2 ^ 53 := Binary64.underflow_le (by decide)
  rw [abs_of_nonneg (two_pos.le.trans htwo), max_eq_left (by rw [roundoff]; linarith)] at herror
  rw [← hexact, ← sub_mul, abs_mul, abs_of_pos hstep]
  generalize w.exactQuotient = q at *
  have hcount : |n - q| ≤ 1 / 2 + q * roundoff := by
    obtain ⟨hbelow, habove⟩ := abs_le.mp herror
    rw [abs_le]
    constructor <;> linarith
  refine (mul_le_mul_of_nonneg_right hcount hstep.le).trans_eq ?_
  have hwidth : w.halfWidth.toRat = q * w.step.toRat / 2 := by linarith
  rw [hwidth, roundoff]
  ring

end Proper

/-! ## The limit -/

/-- The first number that is rounded past the limit: 10000.5. -/
def pastLimit : Magnitude := ⟨20001 <<< 38, 1035, by decide, by decide, .inr (by decide)⟩

/-- The number before it. -/
def lastWithin : Magnitude := ⟨20001 <<< 38 - 1, 1035, by decide, by decide, .inr (by decide)⟩

/-- What the exact quotient has to stay below: the midpoint of the two. -/
def quotientBound : ℚ := 10000 + 1 / 2 - 1 / 2 ^ 40

theorem value_of_scale {m : Magnitude} (h : m.scale = 1035) : m.value = m.digits / 2 ^ 39 := by
  have hpow : (2 : ℚ) ^ 1074 = 2 ^ 39 * 2 ^ 1035 := by rw [← pow_add]
  have hstep : (2 : ℚ) ^ 1035 ≠ 0 := by positivity
  rw [Magnitude.value, Magnitude.units_eq, Magnitude.cast_one, h, Nat.cast_mul,
    Magnitude.cast_two_pow, hpow, mul_div_mul_right _ _ hstep]

theorem value_pastLimit : pastLimit.value = 10000 + 1 / 2 := by
  rw [value_of_scale rfl]
  have : pastLimit.digits = 20001 * 2 ^ 38 := by decide
  rw [this]
  norm_num

theorem value_lastWithin : lastWithin.value = 10000 + 1 / 2 - 1 / 2 ^ 39 := by
  rw [value_of_scale rfl]
  have : lastWithin.digits = 20001 * 2 ^ 38 - 1 := by decide
  rw [this]
  norm_num

/-- The midpoint goes up, to the even digits. -/
theorem isNearest_quotientBound : pastLimit.IsNearest quotientBound := by
  have hround : Magnitude.round? ((20001 * 2 ^ 39 - 1) * Magnitude.one) (2 ^ 40) = some pastLimit := by
    decide +kernel
  have h := Magnitude.round?_isNearest (by decide) hround
  rw [Nat.cast_mul, mul_div_right_comm, mul_div_cancel_right₀ _ Magnitude.one_pos.ne'] at h
  have hbound : ((20001 * 2 ^ 39 - 1 : Nat) : ℚ) / (2 ^ 40 : Nat) = quotientBound := by
    norm_num [quotientBound]
  rwa [hbound] at h

namespace Proper
variable {w : Window} {n : Nat} (hw : w.Proper)
include hw

/-- **There is a count exactly if the width is in range and the quotient is below the bound.** -/
theorem isSome_intervals?_iff : w.intervals?.isSome = true ↔
    w.halfWidth.toRat < 2 ^ 1023 ∧ w.exactQuotient < quotientBound := by
  have hexact0 : 0 ≤ w.exactQuotient := two_pos.le.trans hw.two_le_exactQuotient
  rw [← abs_of_pos hw.halfWidth_pos, ← Binary64.isFinite_two_mul_iff hw.halfWidth_finite]
  constructor
  · intro h
    obtain ⟨n, hn⟩ := Option.isSome_iff_exists.mp h
    have hcount := hw.intervals?_eq_some_iff.mp hn
    have hdouble := Binary64.isFinite_of_div hcount.finite
    refine ⟨hdouble, ?_⟩
    by_contra hle
    obtain ⟨m, hm, hvalue⟩ := (hw.rounds_quotient hdouble).exists_isNearest_abs hcount.finite
    rw [abs_of_nonneg hexact0] at hm
    rw [abs_of_nonneg hw.quotient_nonneg] at hvalue
    have hpast := isNearest_quotientBound.le hm (not_lt.mp hle)
    rw [value_pastLimit, ← hvalue] at hpast
    have hlt := hcount.quotient_lt
    have hn : (n : ℚ) ≤ 10000 := by exact_mod_cast hcount.le_maxIntervals
    linarith
  · rintro ⟨hdouble, hlt⟩
    have hround := hw.rounds_quotient hdouble
    have hfinite : w.quotient.isFinite = true := by
      refine hround.isFinite ?_
      rw [abs_of_nonneg hexact0]
      exact hlt.trans isNearest_quotientBound.in_range
    obtain ⟨m, hm, hvalue⟩ := hround.exists_isNearest_abs hfinite
    rw [abs_of_nonneg hexact0] at hm
    rw [abs_of_nonneg hw.quotient_nonneg] at hvalue
    have horder : lastWithin.value < pastLimit.value := by
      rw [value_lastWithin, value_pastLimit]
      norm_num
    have hmidpoint : w.exactQuotient < (lastWithin.value + pastLimit.value) / 2 := by
      rw [value_lastWithin, value_pastLimit]
      rw [quotientBound] at hlt
      linarith
    have hwithin := hm.lt_of_lt_midpoint horder hmidpoint
    rw [← hvalue, value_pastLimit] at hwithin
    obtain ⟨n, hn⟩ : ∃ n, roundToNat? w.quotient = some n := by
      obtain ⟨s, k, hk⟩ := Binary64.isFinite_iff.mp hfinite
      rw [hk]
      exact ⟨_, rfl⟩
    obtain ⟨-, hlow, hhigh⟩ := (roundToNat?_eq_some_iff hw.quotient_nonneg).mp hn
    have hle : n < 10001 := by
      have : (n : ℚ) < 10001 := by linarith
      exact_mod_cast this
    rw [hw.intervals?_eq_some_iff.mpr ⟨hfinite, hlow, hhigh, Nat.lt_succ_iff.mp hle⟩]
    rfl

end Proper

end Window
end WorkedEquations
