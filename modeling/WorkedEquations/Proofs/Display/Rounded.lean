/-
What rounding to places leaves of a number on screen.

A shown number is a decimal, and a decimal stands for one exact number
(`shownValue`), which is at most half a step of the last place from the number
itself.

Two numbers are shown by one text exactly if they are rounded to one step
(`number_eq_number_iff`). The text is a zero, has a minus, or is a positive
numeral as the rounded number is zero, negative or positive. Rounding keeps the
sign unless it takes the whole number away, and that happens up to half a step
(`sign_shownValue_eq_iff`).
-/
import Mathlib.Data.Sign.Basic
import WorkedEquations.Proofs.Binary64.Value
import WorkedEquations.Proofs.Display.Shown

namespace WorkedEquations

open Binary64 (signOf)

/-! ## The number a constant stands for -/

/-- The number a constant stands for, exactly. -/
def Constant.value (k : Constant) : ℚ := signOf (k.sign = some .minus) * k.numeral.value

/-- **A text is read in one way:** constants with one text stand for one number. -/
theorem Constant.value_eq_of_text {k l : Constant} (hk : k.Valid Char.isDigit)
    (hl : l.Valid Char.isDigit) (h : k.text = l.text) : k.value = l.value := by
  have hsplit : (decide (k.sign = some .minus), k.numeral.text) =
      (decide (l.sign = some .minus), l.numeral.text) := by
    rw [← Binary64.splitSign_text k.sign hk, ← Binary64.splitSign_text l.sign hl]
    exact congrArg Binary64.splitSign h
  obtain ⟨hsign, htext⟩ := Prod.mk.inj hsplit
  have hdecimal : some (Binary64.digitsValue k.numeral.digits, -((k.numeral.fraction.getD []).length : Int)) =
      some (Binary64.digitsValue l.numeral.digits, -((l.numeral.fraction.getD []).length : Int)) := by
    rw [← Binary64.decimalOf?_text hk, ← Binary64.decimalOf?_text hl, htext]
  obtain ⟨hdigits, hlength⟩ := Prod.mk.inj (Option.some_inj.mp hdecimal)
  have hvalue : k.numeral.value = l.numeral.value := by
    have hlength : (k.numeral.fraction.getD []).length = (l.numeral.fraction.getD []).length := by omega
    rw [Numeral.value, Numeral.value, hlength]
    exact congrArg (fun n : Nat => (n : ℚ) / _) hdigits
  simp only [value, hsign, hvalue]

theorem Constant.head?_text_iff {k : Constant} (hk : k.Valid Char.isDigit) :
    k.text.head? = some '-' ↔ k.sign = some .minus := by
  obtain ⟨sign, numeral⟩ := k
  rcases sign with _ | _ | _
  · have hdigit := Numeral.head?_text (Numeral.valid_isDigit_iff.mp hk).1 []
    rw [List.append_nil] at hdigit
    exact iff_of_false (fun h => absurd (hdigit '-' h) (by decide)) nofun
  · exact iff_of_false (fun h => absurd (Option.some_inj.mp h) (by decide)) nofun
  · exact iff_of_true rfl rfl

/-! ## Rounding to places -/

theorem nearestEven_eq_zero_iff (num : Nat) {den : Nat} (hd : 0 < den) :
    nearestEven num den = 0 ↔ (num / den : ℚ) ≤ 1 / 2 := by
  have hnear := nearestEven_sub_le num hd
  constructor
  · intro h
    rw [h, Nat.cast_zero, zero_sub, abs_neg] at hnear
    exact (le_abs_self _).trans hnear
  · intro h
    have hquotient : (0 : ℚ) ≤ num / den := by positivity
    have hone : (nearestEven num den : ℚ) ≤ 1 := by linarith [(abs_le.mp hnear).2]
    have hone : nearestEven num den ≤ 1 := by exact_mod_cast hone
    by_contra h0
    have h1 : nearestEven num den = 1 := by omega
    -- One is as near as zero only halfway, and then the even number is taken.
    have heven := nearestEven_even num hd
    rw [h1, Nat.cast_one] at hnear heven
    have hhalf : (num / den : ℚ) = 1 / 2 := by linarith [(abs_le.mp hnear).2]
    rw [hhalf] at heven
    exact absurd (heven (by norm_num)) (by decide)

namespace Display

/-- The number a finite number is rounded to when it is shown. -/
def shownValue (places : Nat) (x : Binary64) : ℚ := (shown places x).value

/-- Nothing is left on screen of a number that is not zero: it is at most half a step. -/
def RoundsAway (places : Nat) (x : Binary64) : Prop :=
  x.toRat ≠ 0 ∧ |x.toRat| * 10 ^ places ≤ 1 / 2

/-- A text that is a numeral, without a sign, and stands for a positive number. -/
def PositiveNumeral (text : String) : Prop :=
  ∃ n : Numeral, n.Valid Char.isDigit ∧ text.toList = n.text ∧ 0 < n.value

variable (places : Nat) {x y : Binary64}

theorem shown_finite (s : Bool) (m : Magnitude) : shown places (.finite s m) =
    ⟨if s = true ∧ steps places m ≠ 0 then some .minus else none,
      stepsNumeral places (steps places m)⟩ := by
  have hunits : steps places m ≠ 0 → m.units ≠ 0 := mt (steps_eq_zero places)
  have hsign : (Binary64.finite s m < 0 ∧ steps places m ≠ 0) = (s = true ∧ steps places m ≠ 0) := by
    rw [finite_lt_zero_iff, eq_iff_iff]
    tauto
  simp only [shown, shownNumeral, magnitude, hsign]

theorem shownValue_finite (s : Bool) (m : Magnitude) :
    shownValue places (.finite s m) = signOf s * (steps places m / 10 ^ places) := by
  rw [shownValue, shown_finite, Constant.value, stepsNumeral_value]
  by_cases hsteps : steps places m = 0
  · rw [hsteps, Nat.cast_zero, zero_div, mul_zero, mul_zero]
  · cases s <;> simp [hsteps]

theorem shownValue_neg_iff (hx : x.isFinite = true) :
    shownValue places x < 0 ↔ (shown places x).sign = some .minus := by
  obtain ⟨s, m, rfl⟩ := Binary64.isFinite_iff.mp hx
  rw [shownValue_finite, shown_finite]
  rcases Nat.eq_zero_or_pos (steps places m) with h0 | hpos
  · simp [h0]
  · have hsteps : (0 : ℚ) < steps places m / 10 ^ places := by positivity
    cases s
    · rw [Binary64.signOf_false_mul]
      simp [hsteps.le]
    · rw [Binary64.signOf_true_mul]
      simp [hsteps, hpos.ne']

/-- **Half a step** is the most by which a shown number is off. -/
theorem abs_shownValue_sub_le (hx : x.isFinite = true) :
    |shownValue places x - x.toRat| ≤ 1 / 2 / 10 ^ places := by
  obtain ⟨s, m, rfl⟩ := Binary64.isFinite_iff.mp hx
  have hpow : (0 : ℚ) < 10 ^ places := by positivity
  have hsteps : (steps places m : ℚ) / 10 ^ places - m.value =
      (steps places m - m.value * 10 ^ places) / 10 ^ places := by
    field_simp
  rw [shownValue_finite, Binary64.toRat_finite, Binary64.abs_signOf_mul_sub, hsteps, abs_div,
    abs_of_pos hpow]
  exact div_le_div_of_nonneg_right (steps_sub_le places m) hpow.le

theorem shownValue_mul_nonneg (hx : x.isFinite = true) : 0 ≤ shownValue places x * x.toRat := by
  obtain ⟨s, m, rfl⟩ := Binary64.isFinite_iff.mp hx
  have hsteps : (0 : ℚ) ≤ steps places m / 10 ^ places := by positivity
  have hvalue := Binary64.value_nonneg m
  rw [shownValue_finite, Binary64.toRat_finite, mul_mul_mul_comm, Binary64.signOf_mul_self, one_mul]
  positivity

theorem shownValue_eq_zero_iff (hx : x.isFinite = true) :
    shownValue places x = 0 ↔ |x.toRat| * 10 ^ places ≤ 1 / 2 := by
  obtain ⟨s, m, rfl⟩ := Binary64.isFinite_iff.mp hx
  have hone : 0 < Magnitude.one := by exact_mod_cast Magnitude.one_pos
  have hsteps : steps places m = 0 ↔ m.value * 10 ^ places ≤ 1 / 2 := by
    have h := nearestEven_eq_zero_iff (m.units * 10 ^ places) hone
    rwa [Nat.cast_mul, Nat.cast_pow, Nat.cast_ofNat, mul_div_right_comm] at h
  have hsign : signOf s ≠ 0 := left_ne_zero_of_mul_eq_one (Binary64.signOf_mul_self s)
  rw [Binary64.toRat_finite, Binary64.abs_signOf_mul s (Binary64.value_nonneg m), ← hsteps,
    shownValue_finite]
  simp [hsign]

/-- **The sign on screen** is that of the number, unless rounding takes the number away. -/
theorem sign_shownValue_eq_iff (hx : x.isFinite = true) :
    SignType.sign (shownValue places x) = SignType.sign x.toRat ↔ ¬ RoundsAway places x := by
  have hzero := shownValue_eq_zero_iff places hx
  rw [RoundsAway, ← hzero]
  constructor
  · rintro h ⟨hne, h0⟩
    rw [h0, sign_zero] at h
    exact hne (sign_eq_zero_iff.mp h.symm)
  · intro h
    by_cases hx0 : x.toRat = 0
    · rw [hx0, hzero.mpr (by rw [hx0, abs_zero, zero_mul]; norm_num)]
    · have hpos : 0 < shownValue places x * x.toRat := by
        refine lt_of_le_of_ne (shownValue_mul_nonneg places hx) (Ne.symm (mul_ne_zero ?_ hx0))
        exact fun h0 => h ⟨hx0, h0⟩
      rcases mul_pos_iff.mp hpos with ⟨hs, hx⟩ | ⟨hs, hx⟩
      · rw [sign_pos hs, sign_pos hx]
      · rw [sign_neg hs, sign_neg hx]

/-! ## Texts on screen -/

/-- **One text for two numbers** that are rounded to one step. -/
theorem number_eq_number_iff (hx : x.isFinite = true) (hy : y.isFinite = true) :
    number places x = number places y ↔ shownValue places x = shownValue places y := by
  rw [← String.toList_inj, toList_number places hx, toList_number places hy]
  constructor
  · exact Constant.value_eq_of_text (shown_valid places x) (shown_valid places y)
  · intro h
    obtain ⟨s, m, rfl⟩ := Binary64.isFinite_iff.mp hx
    obtain ⟨t, n, rfl⟩ := Binary64.isFinite_iff.mp hy
    rw [shownValue_finite, shownValue_finite] at h
    have hsteps : steps places m = steps places n := by
      have habs := congrArg abs h
      rw [Binary64.abs_signOf_mul s (by positivity), Binary64.abs_signOf_mul t (by positivity),
        div_left_inj' (by positivity)] at habs
      exact_mod_cast habs
    rw [shown_finite, shown_finite, ← hsteps]
    by_cases h0 : steps places m = 0
    · simp only [h0, ne_eq, not_true_eq_false, and_false]
    · rw [← hsteps, mul_left_inj' (by positivity)] at h
      rw [Binary64.signOf_injective h]

theorem number_zero : number places 0 = "0" := by
  have hsteps : steps places .zero = 0 := steps_eq_zero places rfl
  have htext : stepsText places 0 = ['0'] := by simp [stepsText]
  rw [← String.toList_inj]
  simp only [Binary64.zero_eq, Binary64.signedZero, number, hsteps, htext, String.toList_ofList]
  rfl

theorem number_eq_zero_iff (hx : x.isFinite = true) : number places x = "0" ↔ shownValue places x = 0 := by
  have hzero : shownValue places 0 = 0 := by
    rw [shownValue_eq_zero_iff places rfl, Binary64.toRat_zero, abs_zero, zero_mul]
    norm_num
  rw [← number_zero places, number_eq_number_iff places hx rfl, hzero]

theorem head?_number_iff (hx : x.isFinite = true) :
    (number places x).toList.head? = some '-' ↔ shownValue places x < 0 := by
  rw [toList_number places hx, Constant.head?_text_iff (shown_valid places x),
    shownValue_neg_iff places hx]

theorem positiveNumeral_number_iff (hx : x.isFinite = true) :
    PositiveNumeral (number places x) ↔ 0 < shownValue places x := by
  rw [PositiveNumeral, toList_number places hx]
  constructor
  · rintro ⟨n, hn, htext, hpos⟩
    have hvalue := Constant.value_eq_of_text (l := ⟨none, n⟩) (shown_valid places x) hn htext
    rw [shownValue, hvalue]
    simpa [Constant.value, signOf] using hpos
  · intro hpos
    have hsign : (shown places x).sign = none :=
      (shown_sign places x).resolve_right
        (mt (shownValue_neg_iff places hx).mpr (not_lt_of_gt hpos))
    refine ⟨_, shown_valid places x, ?_, ?_⟩
    · rw [Constant.text, hsign]
      rfl
    · simpa [shownValue, Constant.value, hsign, signOf] using hpos

/-- Numbers that are equal are shown by one text, whatever the signs of their zeros. -/
theorem number_eq_of_toRat_eq (hx : x.isFinite = true) (hy : y.isFinite = true)
    (h : x.toRat = y.toRat) : number places x = number places y := by
  rw [number_eq_number_iff places hx hy]
  obtain ⟨s, m, rfl⟩ := Binary64.isFinite_iff.mp hx
  obtain ⟨t, n, rfl⟩ := Binary64.isFinite_iff.mp hy
  rw [Binary64.toRat_finite, Binary64.toRat_finite] at h
  obtain rfl : m = n := by
    have habs := congrArg abs h
    rw [Binary64.abs_signOf_mul s (Binary64.value_nonneg m),
      Binary64.abs_signOf_mul t (Binary64.value_nonneg n)] at habs
    exact Magnitude.value_injective habs
  rw [shownValue_finite, shownValue_finite]
  by_cases h0 : m.value = 0
  · obtain rfl : m = .zero := Magnitude.value_injective (h0.trans Magnitude.value_zero.symm)
    rw [steps_eq_zero places rfl, Nat.cast_zero, zero_div, mul_zero, mul_zero]
  · rw [Binary64.signOf_injective (mul_right_cancel₀ h0 h)]

theorem abs_sub_le_of_number_eq (hx : x.isFinite = true) (hy : y.isFinite = true)
    (h : number places x = number places y) : |x.toRat - y.toRat| ≤ 1 / 10 ^ places := by
  have hleft := abs_shownValue_sub_le places hx
  have hright := abs_shownValue_sub_le places hy
  have hgap := abs_sub_le x.toRat (shownValue places x) y.toRat
  rw [abs_sub_comm x.toRat (shownValue places x)] at hgap
  rw [← (number_eq_number_iff places hx hy).mp h] at hright
  have hstep : (1 : ℚ) / 10 ^ places = 1 / 2 / 10 ^ places + 1 / 2 / 10 ^ places := by ring
  linarith

end Display
end WorkedEquations
