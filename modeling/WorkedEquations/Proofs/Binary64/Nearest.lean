/-
What rounding computes, proved.

`Magnitude.IsNearest q m` says that `m` is the non-negative number `q`
correctly rounded: `q` is below the overflow threshold, no magnitude is
nearer, and of two equally near the one with even digits is taken. It does not
mention how the rounding is done.

There is at most one such magnitude (`IsNearest.unique`), since between two with
even digits there is a third. `round?` gives it, and gives nothing exactly from
the threshold on (`round?_isNearest`, `round?_eq_none_iff`). A decimal is
rounded once, correctly, whatever its exponent (`ofDecimal_isRounding`).
-/
import Mathlib.Algebra.Order.Field.Rat
import Mathlib.Tactic.FieldSimp
import Mathlib.Tactic.Linarith
import Mathlib.Tactic.Positivity
import Mathlib.Tactic.Ring
import WorkedEquations.Binary64.Rounding

namespace WorkedEquations

/-! ## The nearest whole number -/

section
variable (num : Nat) {den : Nat}

/-- Which of the two whole numbers around the quotient is taken, by the part `f` of the quotient
behind the point. -/
theorem nearestEven_cases (hd : 0 < den) :
    ∃ f : ℚ, (num : ℚ) / den = (num / den : Nat) + f ∧ 0 ≤ f ∧ f < 1 ∧
      (nearestEven num den = num / den ∧ f ≤ 1 / 2 ∨
        nearestEven num den = num / den + 1 ∧ 1 / 2 ≤ f) ∧
      (f = 1 / 2 → nearestEven num den % 2 = 0) := by
  have hd' : (0 : ℚ) < den := by exact_mod_cast hd
  have hdm : (den : ℚ) * (num / den : Nat) + (num % den : Nat) = num := by
    exact_mod_cast Nat.div_add_mod num den
  have below : ((num % den : Nat) : ℚ) / den ≤ 1 / 2 ↔ 2 * (num % den) ≤ den := by
    rw [div_le_div_iff₀ hd' two_pos, one_mul, mul_comm]; exact_mod_cast Iff.rfl
  have above : 1 / 2 ≤ ((num % den : Nat) : ℚ) / den ↔ den ≤ 2 * (num % den) := by
    rw [div_le_div_iff₀ two_pos hd', one_mul, mul_comm]; exact_mod_cast Iff.rfl
  refine ⟨(num % den : Nat) / den, by rw [← hdm]; field_simp, by positivity, ?_, ?_, ?_⟩
  · rw [div_lt_one hd']; exact_mod_cast Nat.mod_lt num hd
  · rw [below, above]
    unfold nearestEven
    grind
  · intro h
    have h₁ := below.mp h.le
    have h₂ := above.mp h.ge
    unfold nearestEven
    grind

theorem nearestEven_sub_le (hd : 0 < den) :
    |(nearestEven num den : ℚ) - num / den| ≤ 1 / 2 := by
  obtain ⟨f, e, h0, h1, h, -⟩ := nearestEven_cases num hd
  rw [e, abs_le]
  rcases h with ⟨h, hf⟩ | ⟨h, hf⟩ <;> rw [h] <;> push_cast <;> constructor <;> linarith

theorem nearestEven_even (hd : 0 < den) (h : |(nearestEven num den : ℚ) - num / den| = 1 / 2) :
    nearestEven num den % 2 = 0 := by
  obtain ⟨f, e, h0, h1, hn, heven⟩ := nearestEven_cases num hd
  refine heven ?_
  rcases hn with ⟨hn, -⟩ | ⟨hn, -⟩ <;> rw [e, hn] at h
  · rwa [sub_add_cancel_left, abs_neg, abs_of_nonneg h0] at h
  · push_cast at h
    rw [abs_of_nonneg (by linarith)] at h
    linarith

end

/-- A whole number at most a half away is a nearest one, and as near as another only if exactly
a half away. -/
theorem nearest_of_abs_sub_le {n k : Nat} {y : ℚ} (h : |(n : ℚ) - y| ≤ 1 / 2) :
    |(n : ℚ) - y| ≤ |(k : ℚ) - y| ∧ (k ≠ n → |(n : ℚ) - y| = |(k : ℚ) - y| → |(n : ℚ) - y| = 1 / 2) := by
  by_cases hk : k = n
  · subst hk
    exact ⟨le_rfl, fun h => absurd rfl h⟩
  have one_le : (1 : ℚ) ≤ |(k : ℚ) - n| := by
    have : (1 : ℤ) ≤ |(k : ℤ) - n| := Int.one_le_abs (by omega)
    exact_mod_cast this
  have tri := abs_sub_le (k : ℚ) y n
  rw [abs_sub_comm y n] at tri
  exact ⟨by linarith, fun _ h => by linarith⟩

namespace Magnitude

/-! ## Magnitudes on the number line -/

theorem units_eq (m : Magnitude) : m.units = m.digits * 2 ^ m.scale := Nat.shiftLeft_eq _ _

theorem digits_lt_two_pow (m : Magnitude) : m.digits < 2 ^ 53 := m.digits_lt

theorem two_pow_le_digits {m : Magnitude} (h : 0 < m.scale) : 2 ^ 52 ≤ m.digits :=
  m.normal.resolve_left (by omega)

theorem units_lt (m : Magnitude) : m.units < 2 ^ 53 * 2 ^ m.scale := by
  rw [units_eq]
  exact Nat.mul_lt_mul_of_pos_right m.digits_lt_two_pow (Nat.two_pow_pos _)

/-- Seen from a scale, a magnitude is a multiple of its step or lies below its normal range. -/
theorem units_grid (m : Magnitude) (scale : Nat) :
    (∃ k, m.units = k * 2 ^ scale ∧ (m.digits % 2 = 0 → k % 2 = 0)) ∨
      (0 < scale ∧ m.units < 2 ^ 52 * 2 ^ scale) := by
  rcases Nat.lt_or_ge m.scale scale with h | h
  · refine .inr ⟨by omega, Nat.lt_of_lt_of_le m.units_lt ?_⟩
    rw [← Nat.pow_add, ← Nat.pow_add]
    exact Nat.pow_le_pow_right (by decide) (by omega)
  · obtain ⟨j, hj⟩ := Nat.exists_eq_add_of_le h
    refine .inl ⟨m.digits * 2 ^ j, by rw [units_eq, hj, Nat.pow_add]; ring, fun hk => ?_⟩
    rw [Nat.mul_mod, hk, Nat.zero_mul, Nat.zero_mod]

/-- A greater scale makes a greater magnitude: normal digits outweigh all digits a scale below. -/
theorem units_lt_of_scale_lt {m n : Magnitude} (h : m.scale < n.scale) : m.units < n.units := by
  have h₁ := m.units_lt
  have h₂ : 2 ^ 53 * 2 ^ m.scale ≤ 2 ^ 52 * 2 ^ n.scale := by
    rw [← Nat.pow_add, ← Nat.pow_add]
    exact Nat.pow_le_pow_right (by decide) (by omega)
  have h₃ : 2 ^ 52 * 2 ^ n.scale ≤ n.units := by
    rw [units_eq]
    exact Nat.mul_le_mul_right _ (two_pow_le_digits (by omega))
  omega

theorem units_injective {m n : Magnitude} (h : m.units = n.units) : m = n := by
  have hs : m.scale = n.scale := by
    rcases Nat.lt_trichotomy m.scale n.scale with hs | hs | hs
    · exact absurd h (units_lt_of_scale_lt hs).ne
    · exact hs
    · exact absurd h (units_lt_of_scale_lt hs).ne'
  have hd : m.digits = n.digits := by
    rw [units_eq, units_eq, hs] at h
    exact Nat.eq_of_mul_eq_mul_right (Nat.two_pow_pos _) h
  cases m; cases n
  simp_all

/-- Between two magnitudes with even digits there is another. -/
theorem exists_between {m n : Magnitude} (h : m.units < n.units) (hm : m.digits % 2 = 0)
    (hn : n.digits % 2 = 0) : ∃ k : Magnitude, m.units < k.units ∧ k.units < n.units := by
  have next : m.digits + 1 < 1 <<< 53 := by have := m.digits_lt; omega
  let succ : Magnitude := ⟨m.digits + 1, m.scale, next, m.scale_le, m.normal.imp_right (by omega)⟩
  have hsucc : succ.units = (m.digits + 1) * 2 ^ m.scale := succ.units_eq
  refine ⟨succ, ?_, ?_⟩
  · rw [hsucc, units_eq]
    exact Nat.mul_lt_mul_of_pos_right (Nat.lt_succ_self _) (Nat.two_pow_pos _)
  rw [hsucc]
  rcases n.units_grid m.scale with ⟨k, hk, heven⟩ | ⟨h0, hlow⟩
  · have hk2 := heven hn
    rw [units_eq m, hk] at h
    rw [hk]
    have : m.digits < k := Nat.lt_of_mul_lt_mul_right h
    exact Nat.mul_lt_mul_of_pos_right (by omega) (Nat.two_pow_pos _)
  · have : 2 ^ 52 * 2 ^ m.scale ≤ m.units := by
      rw [units_eq]
      exact Nat.mul_le_mul_right _ (two_pow_le_digits h0)
    omega

/-! ## Correct rounding -/

theorem cast_two_pow (n : Nat) : ((2 ^ n : Nat) : ℚ) = 2 ^ n := by push_cast; rfl

theorem cast_one_shiftLeft (n : Nat) : ((1 <<< n : Nat) : ℚ) = 2 ^ n := by
  rw [Nat.one_shiftLeft, cast_two_pow]

theorem cast_one : (one : ℚ) = 2 ^ 1074 := by unfold one; apply cast_one_shiftLeft

theorem one_pos : (0 : ℚ) < one := by rw [cast_one]; positivity

/-- The magnitude as a number. -/
def value (m : Magnitude) : ℚ := m.units / one

/-- The least number that is past the largest magnitude when rounded: half a step above it. -/
def overflow : ℚ := (2 ^ 54 - 1) * 2 ^ 970

/-- `m` is the number `q ≥ 0` correctly rounded: in range, nearest, a tie to even digits. -/
structure IsNearest (q : ℚ) (m : Magnitude) : Prop where
  in_range : q < overflow
  nearest (n : Magnitude) : |m.value - q| ≤ |n.value - q|
  even (n : Magnitude) : n ≠ m → |m.value - q| = |n.value - q| → m.digits % 2 = 0

theorem one_lt_overflow : 1 < overflow := by
  have h : (1 : ℚ) ≤ 2 ^ 970 := one_le_pow₀ one_le_two
  unfold overflow
  generalize (2 : ℚ) ^ 970 = a at *
  linarith

theorem overflow_mul_one : overflow * one = (2 ^ 53 - 1 / 2) * 2 ^ 2045 := by
  have hpow : (2 : ℚ) ^ 970 * 2 ^ 1074 * 2 = 2 ^ 2045 := by rw [← pow_add, ← pow_succ]
  rw [← hpow, overflow, cast_one]
  generalize (2 : ℚ) ^ 970 = a
  generalize (2 : ℚ) ^ 1074 = b
  ring

theorem overflow_le : overflow ≤ 10 ^ 309 := by
  have hpow : 2 ^ 1024 ≤ 10 ^ 309 := by decide +kernel
  have hcast : (2 : ℚ) ^ 54 * 2 ^ 970 ≤ 10 ^ 309 := by
    rw [← pow_add]
    have := Nat.cast_le (α := ℚ).mpr hpow
    rwa [cast_two_pow, Nat.cast_pow, Nat.cast_ofNat] at this
  have h0 : (0 : ℚ) < 2 ^ 970 := by positivity
  unfold overflow
  generalize (2 : ℚ) ^ 970 = a at *
  generalize (10 : ℚ) ^ 309 = b at *
  linarith

theorem value_lt_value {m n : Magnitude} : m.value < n.value ↔ m.units < n.units := by
  rw [value, value, div_lt_div_iff_of_pos_right one_pos]
  exact Nat.cast_lt

theorem value_injective {m n : Magnitude} (h : m.value = n.value) : m = n := by
  rw [value, value, div_left_inj' one_pos.ne'] at h
  exact units_injective (by exact_mod_cast h)

theorem IsNearest.not_lt {q : ℚ} {m n : Magnitude} (hm : m.IsNearest q) (hn : n.IsNearest q) :
    ¬ m.value < n.value := by
  intro hlt
  have hne : n ≠ m := fun h => by rw [h] at hlt; exact lt_irrefl _ hlt
  have heq := le_antisymm (hm.nearest n) (hn.nearest m)
  -- Two values equally near lie on both sides of `q`, so what is between them is nearer.
  obtain ⟨k, hmk, hkn⟩ :=
    exists_between (value_lt_value.mp hlt) (hm.even n hne heq) (hn.even m hne.symm heq.symm)
  have hk := hm.nearest k
  rw [← value_lt_value] at hmk hkn
  rcases le_total q m.value with h | h <;> rcases le_total q n.value with h' | h' <;>
    rcases le_total q k.value with h'' | h'' <;>
    simp only [abs_of_nonneg, abs_of_nonpos, sub_nonneg, sub_nonpos, h, h', h''] at heq hk <;>
    linarith

/-- **Correct rounding is unique.** -/
theorem IsNearest.unique {q : ℚ} {m n : Magnitude} (hm : m.IsNearest q) (hn : n.IsNearest q) :
    m = n :=
  value_injective (le_antisymm (le_of_not_gt (hn.not_lt hm)) (le_of_not_gt (hm.not_lt hn)))

/-! ## Rounding a quotient of units -/

theorem of?_eq_some_iff {digits scale : Nat} {m : Magnitude} :
    of? digits scale = some m ↔ m.digits = digits ∧ m.scale = scale := by
  unfold of?
  constructor
  · intro h
    split at h
    · cases h; exact ⟨rfl, rfl⟩
    · cases h
  · rintro ⟨rfl, rfl⟩
    rw [dif_pos ⟨m.digits_lt, m.scale_le, m.normal⟩]

theorem of?_eq_none_iff {digits scale : Nat} :
    of? digits scale = none ↔ ¬ (digits < 2 ^ 53 ∧ scale ≤ 2045 ∧ (scale = 0 ∨ 2 ^ 52 ≤ digits)) := by
  unfold of?
  split
  · next h => exact ⟨nofun, fun hn => absurd h hn⟩
  · next h => exact ⟨fun _ => h, fun _ => rfl⟩

/-- A number of units measured in steps of `2 ^ scale`: `digits` is the nearest whole number of
steps, the scale the one at which that takes 53 binary digits. -/
structure Measured (x : ℚ) (digits scale : Nat) : Prop where
  le : x ≤ 2 ^ 53 * 2 ^ scale
  normal : scale = 0 ∨ 2 ^ 52 * 2 ^ scale ≤ x
  near : |(digits : ℚ) - x / 2 ^ scale| ≤ 1 / 2
  even : |(digits : ℚ) - x / 2 ^ scale| = 1 / 2 → digits % 2 = 0

namespace Measured
variable {x : ℚ} {digits scale : Nat}

/-- A carry gives one digit too many, and then a power of two. -/
theorem digits_le (h : Measured x digits scale) : digits ≤ 2 ^ 53 := by
  have hx : x / 2 ^ scale ≤ 2 ^ 53 := by rw [div_le_iff₀ (by positivity)]; exact h.le
  have := (abs_le.mp h.near).2
  have : (digits : ℚ) < (2 ^ 53 + 1 : Nat) := by push_cast; linarith
  exact Nat.lt_succ_iff.mp (by exact_mod_cast this)

theorem le_digits (h : Measured x digits scale) : scale = 0 ∨ 2 ^ 52 ≤ digits := by
  refine h.normal.imp_right fun hx => ?_
  rw [← le_div_iff₀ (by positivity)] at hx
  have := (abs_le.mp h.near).1
  have : ((2 ^ 52 : Nat) : ℚ) < (digits + 1 : Nat) := by push_cast; linarith
  exact Nat.lt_succ_iff.mp (by exact_mod_cast this)

theorem nearest (h : Measured x digits scale) {m : Magnitude} (hm : m.units = digits * 2 ^ scale)
    (n : Magnitude) : |(m.units : ℚ) - x| ≤ |(n.units : ℚ) - x| ∧
      (n ≠ m → |(m.units : ℚ) - x| = |(n.units : ℚ) - x| → digits % 2 = 0) := by
  have hstep : (0 : ℚ) < 2 ^ scale := by positivity
  have inSteps : ∀ a : ℚ, |a * 2 ^ scale - x| = |a - x / 2 ^ scale| * 2 ^ scale := fun a => by
    rw [← abs_of_pos hstep, ← abs_mul, abs_of_pos hstep, sub_mul, div_mul_cancel₀ _ hstep.ne']
  have hcast : (m.units : ℚ) = digits * 2 ^ scale := by rw [hm]; push_cast; rfl
  rw [hcast, inSteps]
  rcases n.units_grid scale with ⟨k, hk, -⟩ | ⟨h0, hlow⟩
  · obtain ⟨hle, htie⟩ := nearest_of_abs_sub_le (k := k) h.near
    have hcast : (n.units : ℚ) = k * 2 ^ scale := by rw [hk]; push_cast; rfl
    rw [hcast, inSteps]
    refine ⟨mul_le_mul_of_nonneg_right hle hstep.le, fun hne he => h.even (htie ?_ ?_)⟩
    · rintro rfl
      exact hne (units_injective (hk.trans hm.symm))
    · exact mul_right_cancel₀ hstep.ne' he
  · -- Below the normal range: the least normal number of steps is nearer already.
    have hx := h.normal.resolve_left (by omega)
    have hlow' : (n.units : ℚ) < 2 ^ 52 * 2 ^ scale := by exact_mod_cast hlow
    have h52 := mul_le_mul_of_nonneg_right (nearest_of_abs_sub_le (k := 2 ^ 52) h.near).1 hstep.le
    rw [← inSteps ((2 ^ 52 : Nat) : ℚ), Nat.cast_pow, Nat.cast_ofNat] at h52
    rw [abs_of_nonpos (by linarith : 2 ^ 52 * 2 ^ scale - x ≤ 0)] at h52
    have := neg_le_abs ((n.units : ℚ) - x)
    exact ⟨by linarith, fun _ _ => by linarith⟩

/-- **What is measured is nearest,** if it is in range. -/
theorem isNearest (h : Measured x digits scale) {m : Magnitude} (hm : m.units = digits * 2 ^ scale)
    (heven : digits % 2 = 0 → m.digits % 2 = 0) (hrange : x / one < overflow) :
    m.IsNearest (x / one) := by
  have dist : ∀ n : Magnitude, |n.value - x / one| = |(n.units : ℚ) - x| / one :=
    fun n => by rw [value, ← sub_div, abs_div, abs_of_pos one_pos]
  refine ⟨hrange, fun n => ?_, fun n hne he => heven ?_⟩
  · rw [dist, dist, div_le_div_iff_of_pos_right one_pos]
    exact (h.nearest hm n).1
  · rw [dist, dist, div_left_inj' one_pos.ne'] at he
    exact (h.nearest hm n).2 hne he

/-- The scale passes a greatest one, by itself or by a carry, exactly from half a step above the
largest number of that scale on: at half a step the digits are odd, so the tie carries. -/
theorem scale_exceeds_iff (h : Measured x digits scale) (last : Nat) :
    last < scale ∨ scale = last ∧ digits = 2 ^ 53 ↔ (2 ^ 53 - 1 / 2) * 2 ^ last ≤ x := by
  have hdigits := h.digits_le
  have hpos : (0 : ℚ) < 2 ^ last := by positivity
  have double : ∀ {m n : Nat}, m < n → (2 : ℚ) ^ m * 2 ≤ 2 ^ n := fun h => by
    rw [← pow_succ]; exact pow_le_pow_right₀ one_le_two h
  constructor
  · rintro (hs | ⟨rfl, rfl⟩)
    · have := h.normal.resolve_left (by omega)
      have := double hs
      linarith
    · have := (abs_le.mp h.near).2
      rw [Nat.cast_pow, Nat.cast_ofNat] at this
      rw [← le_div_iff₀ hpos]
      linarith
  · intro hx
    rcases Nat.lt_trichotomy scale last with hs | rfl | hs
    · have := h.le
      have := double hs
      linarith
    · refine .inr ⟨rfl, ?_⟩
      by_contra hne
      rw [← le_div_iff₀ hpos] at hx
      have hlast : (digits : ℚ) ≤ (2 ^ 53 - 1 : Nat) := by exact_mod_cast (by omega)
      have hdown := (abs_le.mp h.near).1
      have : digits = 2 ^ 53 - 1 := by
        have : ((2 ^ 53 - 1 : Nat) : ℚ) ≤ digits := by push_cast; linarith
        exact Nat.le_antisymm (by omega) (by exact_mod_cast this)
      subst this
      have heven := h.even (by push_cast at hlast hdown ⊢; rw [abs_of_nonpos] <;> linarith)
      omega
    · exact .inl hs

theorem lt_overflow (h : Measured x digits scale) (hscale : scale < 2045 ∨ scale ≤ 2045 ∧ digits < 2 ^ 53) :
    x / one < overflow := by
  rw [div_lt_iff₀ one_pos, overflow_mul_one, ← not_le, ← h.scale_exceeds_iff]
  omega

end Measured

section
variable {num den : Nat}

theorem round?_spec (num : Nat) (hd : 0 < den) : ∃ digits scale,
    Measured (num / den) digits scale ∧
      round? num den = if digits < 2 ^ 53 then of? digits scale else of? (2 ^ 52) (scale + 1) := by
  refine ⟨nearestEven num (den <<< ((num / den).log2 - 52)), (num / den).log2 - 52, ?_, rfl⟩
  rw [Nat.shiftLeft_eq]
  generalize hs : (num / den).log2 - 52 = scale
  have hd' : (0 : ℚ) < den := by exact_mod_cast hd
  have hD : 0 < den * 2 ^ scale := Nat.mul_pos hd (Nat.two_pow_pos _)
  have hsteps : (num : ℚ) / (den * 2 ^ scale : Nat) = num / den / 2 ^ scale := by
    push_cast; rw [div_div]
  refine ⟨?_, ?_, hsteps ▸ nearestEven_sub_le num hD, hsteps ▸ nearestEven_even num hD⟩
  · have h : num / den < 2 ^ (53 + scale) :=
      Nat.lt_of_lt_of_le Nat.lt_log2_self (Nat.pow_le_pow_right (by decide) (by omega))
    rw [Nat.div_lt_iff_lt_mul hd, Nat.pow_add] at h
    rw [div_le_iff₀ hd']
    exact_mod_cast h.le
  · refine Nat.eq_zero_or_pos scale |>.imp_right fun h0 => ?_
    have hne : num / den ≠ 0 := fun h => by rw [h, Nat.log2_zero] at hs; omega
    have h := Nat.log2_self_le hne
    rw [show (num / den).log2 = 52 + scale by omega, Nat.le_div_iff_mul_le hd, Nat.pow_add] at h
    rw [le_div_iff₀ hd']
    exact_mod_cast h

/-- **Overflow.** There is no rounded magnitude exactly from the threshold on. -/
theorem round?_eq_none_iff (hd : 0 < den) :
    round? num den = none ↔ overflow ≤ num / den / one := by
  obtain ⟨digits, scale, h, hround⟩ := round?_spec num hd
  rw [le_div_iff₀ one_pos, overflow_mul_one, ← h.scale_exceeds_iff, hround]
  have hle := h.digits_le
  have hge := h.le_digits
  split <;> rw [of?_eq_none_iff] <;> omega

/-- What is rounded to is what was measured, a carry written with a digit less. -/
theorem measured_of_round? {m : Magnitude} (hd : 0 < den) (hm : round? num den = some m) :
    ∃ digits scale, Measured (num / den) digits scale ∧ m.units = digits * 2 ^ scale ∧
      (digits % 2 = 0 → m.digits % 2 = 0) := by
  obtain ⟨digits, scale, h, hround⟩ := round?_spec num hd
  have hle := h.digits_le
  refine ⟨digits, scale, h, ?_⟩
  rw [hround] at hm
  split at hm
  · obtain ⟨h₁, h₂⟩ := of?_eq_some_iff.mp hm
    rw [units_eq, h₁, h₂]
    exact ⟨rfl, id⟩
  · obtain ⟨h₁, h₂⟩ := of?_eq_some_iff.mp hm
    rw [units_eq, h₁, h₂, show digits = 2 ^ 53 by omega, Nat.pow_succ 2 scale]
    exact ⟨by ring, fun _ => by decide⟩

theorem round?_isNearest {m : Magnitude} (hd : 0 < den) (hm : round? num den = some m) :
    m.IsNearest (num / den / one) := by
  have hrange : ¬ overflow ≤ (num : ℚ) / den / one := by
    rw [← round?_eq_none_iff hd, hm]; exact Option.some_ne_none m
  obtain ⟨digits, scale, h, hunits, heven⟩ := measured_of_round? hd hm
  exact h.isNearest hunits heven (lt_of_not_ge hrange)

end

end Magnitude

namespace Binary64

/-! ## Rounded numbers -/

/-- The number `q ≥ 0`, or `-q`, correctly rounded: the nearest finite number, or an infinity from
the overflow threshold on. -/
inductive IsRounding (negative : Bool) (q : ℚ) : Binary64 → Prop where
  | finite {m : Magnitude} : m.IsNearest q → IsRounding negative q (.finite negative m)
  | infinite : Magnitude.overflow ≤ q → IsRounding negative q (.infinite negative)

theorem IsRounding.unique {negative : Bool} {q : ℚ} {x y : Binary64} (hx : x.IsRounding negative q)
    (hy : y.IsRounding negative q) : x = y := by
  cases hx with
  | finite hm =>
    cases hy with
    | finite hn => rw [hm.unique hn]
    | infinite h => exact absurd h (not_le_of_gt hm.in_range)
  | infinite h =>
    cases hy with
    | finite hn => exact absurd h (not_le_of_gt hn.in_range)
    | infinite _ => rfl

/-- **A quotient is rounded once, correctly.** -/
theorem ofQuotient_isRounding (negative : Bool) (num : Nat) {den : Nat} (hd : 0 < den) :
    (ofQuotient negative num den).IsRounding negative (num / den / Magnitude.one) := by
  unfold ofQuotient
  split
  · next m hm => exact .finite (Magnitude.round?_isNearest hd hm)
  · next hm => exact .infinite ((Magnitude.round?_eq_none_iff hd).mp hm)

theorem ofQuotient_mul_one_isRounding (negative : Bool) (n : Nat) :
    (ofQuotient negative (n * Magnitude.one) 1).IsRounding negative n := by
  have h := ofQuotient_isRounding negative (n * Magnitude.one) Nat.one_pos
  rwa [Nat.cast_mul, Nat.cast_one, div_one, mul_div_cancel_right₀ _ Magnitude.one_pos.ne'] at h

theorem ofInt_isRounding (n : Int) : (ofInt n).IsRounding (n < 0) n.natAbs :=
  ofQuotient_mul_one_isRounding _ _

theorem IsRounding.neg {negative : Bool} {q : ℚ} {x : Binary64} (h : x.IsRounding negative q) :
    (-x).IsRounding (!negative) q := by
  cases h with
  | finite hm => exact .finite hm
  | infinite h => exact .infinite h

theorem one_isRounding : (1 : Binary64).IsRounding false 1 := by
  have h := ofInt_isRounding 1
  rw [Int.natAbs_one, Nat.cast_one] at h
  exact h

theorem zero_isRounding : (0 : Binary64).IsRounding false 0 := by
  have h := ofInt_isRounding 0
  rw [Int.natAbs_zero, Nat.cast_zero] at h
  exact h

/-- What is less than half the least magnitude rounds to zero. -/
theorem signedZero_isRounding (negative : Bool) {q : ℚ} (h0 : 0 ≤ q) (hq : q * 2 * Magnitude.one ≤ 1) :
    (signedZero negative).IsRounding negative q := by
  have hunits : Magnitude.zero.units = 0 := rfl
  have hzero : Magnitude.zero.value = 0 := by rw [Magnitude.value, hunits, Nat.cast_zero, zero_div]
  refine .finite ⟨?_, fun n => ?_, fun _ _ _ => rfl⟩
  · have hone : (1 : ℚ) ≤ Magnitude.one := by exact_mod_cast Magnitude.one_pos
    have := mul_le_mul_of_nonneg_left hone h0
    have := Magnitude.one_lt_overflow
    linarith
  · rw [hzero, zero_sub, abs_neg, abs_of_nonneg h0]
    rcases Nat.eq_zero_or_pos n.units with hn | hn
    · rw [Magnitude.value, hn, Nat.cast_zero, zero_div, zero_sub, abs_neg, abs_of_nonneg h0]
    · have h1 : (1 : ℚ) ≤ n.units := by exact_mod_cast hn
      have : q * 2 ≤ n.value := by
        rw [Magnitude.value, le_div_iff₀ Magnitude.one_pos]; linarith
      have := le_abs_self (n.value - q)
      linarith

/-- Ten to the power of a third of the binary digits, rounded up, outgrows the number. -/
theorem lt_four_mul_pow (n : Nat) : n < 4 * 10 ^ ((n.log2 + 1) / 3) :=
  calc n < 2 ^ (n.log2 + 1) := Nat.lt_log2_self
    _ ≤ 2 ^ (2 + 3 * ((n.log2 + 1) / 3)) := Nat.pow_le_pow_right (by decide) (by omega)
    _ = 4 * 8 ^ ((n.log2 + 1) / 3) := by rw [Nat.pow_add, Nat.pow_mul]
    _ ≤ 4 * 10 ^ ((n.log2 + 1) / 3) :=
      Nat.mul_le_mul_left 4 (Nat.pow_le_pow_left (by decide) _)

/-- An exponent far below the digits leaves less than half the least magnitude. -/
theorem mul_two_one_le {digits e : Nat} (h : (digits.log2 + 1) / 3 + 325 ≤ e) :
    digits * (2 * Magnitude.one) ≤ 10 ^ e := by
  have hpow : 4 * (2 * Magnitude.one) ≤ 10 ^ 325 := by decide +kernel
  calc digits * (2 * Magnitude.one)
      ≤ 4 * 10 ^ ((digits.log2 + 1) / 3) * (2 * Magnitude.one) :=
        Nat.mul_le_mul_right _ (lt_four_mul_pow digits).le
    _ = 10 ^ ((digits.log2 + 1) / 3) * (4 * (2 * Magnitude.one)) := by ring
    _ ≤ 10 ^ ((digits.log2 + 1) / 3) * 10 ^ 325 := Nat.mul_le_mul_left _ hpow
    _ = 10 ^ ((digits.log2 + 1) / 3 + 325) := by rw [← Nat.pow_add]
    _ ≤ 10 ^ e := Nat.pow_le_pow_right (by decide) h

/-- **A decimal is rounded once, correctly,** also where its power of ten is never formed. -/
theorem ofDecimal_isRounding (negative : Bool) (digits : Nat) (exponent : Int) :
    (ofDecimal negative digits exponent).IsRounding negative (digits * (10 : ℚ) ^ exponent) := by
  unfold ofDecimal
  split
  · next h =>
    subst h
    rw [Nat.cast_zero, zero_mul]
    exact signedZero_isRounding negative le_rfl (by rw [zero_mul, zero_mul]; exact zero_le_one)
  next h0 =>
  split
  · next e =>
    rw [Int.ofNat_eq_natCast, zpow_natCast]
    split
    · next he =>
      refine .infinite ?_
      have h1 : (1 : ℚ) ≤ digits := by exact_mod_cast Nat.pos_of_ne_zero h0
      have h2 : (10 : ℚ) ^ 309 ≤ 10 ^ e := pow_le_pow_right₀ (by norm_num) he
      calc Magnitude.overflow ≤ 1 * 10 ^ 309 := by rw [one_mul]; exact Magnitude.overflow_le
        _ ≤ digits * 10 ^ e := mul_le_mul h1 h2 (by positivity) (by positivity)
    · have := ofQuotient_mul_one_isRounding negative (digits * 10 ^ e)
      push_cast at this
      exact this
  · next e =>
    rw [zpow_negSucc]
    split
    · next he =>
      refine signedZero_isRounding negative (by positivity) ?_
      have h : ((digits * (2 * Magnitude.one) : Nat) : ℚ) ≤ (10 ^ (e + 1) : Nat) :=
        Nat.cast_le.mpr (mul_two_one_le he)
      push_cast at h
      rw [mul_assoc, mul_right_comm, ← div_eq_mul_inv, div_le_one (by positivity)]
      exact h
    · have := ofQuotient_isRounding negative (digits * Magnitude.one)
        (show 0 < 10 ^ (e + 1) by positivity)
      rw [Nat.cast_mul, div_right_comm, mul_div_cancel_right₀ _ Magnitude.one_pos.ne'] at this
      push_cast at this
      rwa [← div_eq_mul_inv]

end Binary64
end WorkedEquations
