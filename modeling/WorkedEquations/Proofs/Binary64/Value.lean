/-
Exact values of finite numbers, and arithmetic as exact arithmetic rounded once.

`x.Rounds q` says that `x` is the number `q` correctly rounded: the nearest
finite number, or an infinity past the largest. It leaves open which zero a zero
is, as the sign of an exact zero is a matter of convention and not of rounding.

Each operation on finite numbers rounds the exact result (`rounds_add`,
`rounds_mul`, `rounds_div`). Rounded numbers keep their order and stay near what
they round (`Rounds.le`, `Rounds.abs_sub_le`). Two operations do better: a sum
never falls below the resolution of the format, so its error is relative
(`toRat_add_sub_le`), and a factor that is a power of two is exact
(`toRat_mul_of_two_pow`).
-/
import WorkedEquations.Proofs.Binary64.Error
import WorkedEquations.Proofs.Binary64.Negation

namespace WorkedEquations
namespace Binary64

open Magnitude (one overflow)

/-! ## Signs and exact values -/

/-- A sign as a factor. -/
def signOf (negative : Bool) : ℚ := if negative then -1 else 1

theorem signOf_true_mul (q : ℚ) : signOf true * q = -q := by simp [signOf]

theorem signOf_false_mul (q : ℚ) : signOf false * q = q := by simp [signOf]

theorem signOf_injective {s t : Bool} (h : signOf s = signOf t) : s = t := by
  cases s <;> cases t <;> first | rfl | norm_num [signOf] at h

theorem signOf_mul_self (s : Bool) : signOf s * signOf s = 1 := by cases s <;> simp [signOf]

theorem abs_signOf_mul (s : Bool) {q : ℚ} (h : 0 ≤ q) : |signOf s * q| = q := by
  cases s <;> simp [signOf, abs_of_nonneg h]

theorem abs_signOf_mul_sub (s : Bool) (q r : ℚ) : |signOf s * q - signOf s * r| = |q - r| := by
  cases s
  · rw [signOf_false_mul, signOf_false_mul]
  · rw [signOf_true_mul, signOf_true_mul, neg_sub_neg, abs_sub_comm]

theorem signOf_bne (s t : Bool) : signOf (s != t) = signOf s * signOf t := by
  cases s <;> cases t <;> simp [signOf]

theorem signOf_decide_mul_abs (q : ℚ) : signOf (decide (q < 0)) * |q| = q := by
  rcases lt_or_ge q 0 with h | h
  · simp [signOf, h, abs_of_neg h]
  · simp [signOf, not_lt_of_ge h, abs_of_nonneg h]

theorem cast_signed (s : Bool) (n : Nat) : ((signed s n : Int) : ℚ) = signOf s * n := by
  cases s <;> simp [signed, signOf]

/-- The exact value of a finite number. What is not finite has none and is given zero. -/
def toRat : Binary64 → ℚ
  | .finite s m => signOf s * m.value
  | _ => 0

theorem toRat_finite (s : Bool) (m : Magnitude) : (finite s m).toRat = signOf s * m.value := rfl

theorem isFinite_iff {x : Binary64} : x.isFinite = true ↔ ∃ s m, x = finite s m := by
  cases x <;> simp [isFinite]

theorem isNaN_of_isFinite {x : Binary64} (hx : x.isFinite = true) : x.isNaN = false := by
  obtain ⟨s, m, rfl⟩ := isFinite_iff.mp hx
  rfl

theorem toRat_eq_place {x : Binary64} (hx : x.isFinite = true) : x.toRat = x.place / one := by
  obtain ⟨s, m, rfl⟩ := isFinite_iff.mp hx
  rw [toRat_finite, place, cast_signed, Magnitude.value, mul_div_assoc]

theorem toRat_neg (x : Binary64) : (-x).toRat = -x.toRat := by
  cases x with
  | nan => exact neg_zero.symm
  | infinite s => exact neg_zero.symm
  | finite s m => cases s <;> simp [neg_finite, toRat_finite, signOf]

theorem value_nonneg (m : Magnitude) : 0 ≤ m.value := div_nonneg (Nat.cast_nonneg _) Magnitude.one_pos.le

theorem toRat_abs (x : Binary64) : x.abs.toRat = |x.toRat| := by
  cases x with
  | nan => exact abs_zero.symm
  | infinite s => exact abs_zero.symm
  | finite s m =>
    rw [toRat_finite, abs_signOf_mul s (value_nonneg m)]
    exact one_mul _

theorem abs_toRat_lt_overflow (x : Binary64) : |x.toRat| < overflow := by
  cases x with
  | nan | infinite =>
    have := Magnitude.one_lt_overflow
    rw [show toRat _ = 0 from rfl, abs_zero]
    linarith
  | finite s m =>
    rw [toRat_finite, abs_signOf_mul s (value_nonneg m)]
    exact m.isNearest_value.in_range

theorem abs_toRat_lt (x : Binary64) : |x.toRat| < 2 ^ 1024 := by
  refine x.abs_toRat_lt_overflow.trans ?_
  have hpow : (2 : ℚ) ^ 54 * 2 ^ 970 = 2 ^ 1024 := by rw [← pow_add]
  have hpos : (0 : ℚ) < 2 ^ 970 := by positivity
  rw [← hpow, overflow]
  generalize (2 : ℚ) ^ 970 = a at *
  linarith only [hpos]

theorem least_le_abs_toRat {x : Binary64} (h : x.toRat ≠ 0) : 1 / 2 ^ 1074 ≤ |x.toRat| := by
  cases x with
  | nan | infinite => exact absurd rfl h
  | finite s m =>
    rw [toRat_finite, abs_signOf_mul s (value_nonneg m), Magnitude.value, Magnitude.cast_one]
    have hunits : m.units ≠ 0 := by
      intro h0
      rw [toRat_finite, Magnitude.value, h0, Nat.cast_zero, zero_div, mul_zero] at h
      exact h rfl
    have : (1 : ℚ) ≤ m.units := by exact_mod_cast Nat.pos_of_ne_zero hunits
    exact div_le_div_of_nonneg_right this (by positivity)

/-! ## Comparisons -/

section
variable {x y : Binary64} (hx : x.isFinite = true) (hy : y.isFinite = true)
include hx hy

theorem lt_iff_toRat : x < y ↔ x.toRat < y.toRat := by
  rw [lt_iff_place (isNaN_of_isFinite hx) (isNaN_of_isFinite hy), toRat_eq_place hx,
    toRat_eq_place hy, div_lt_div_iff_of_pos_right Magnitude.one_pos, Int.cast_lt]

theorem le_iff_toRat : x ≤ y ↔ x.toRat ≤ y.toRat := by
  have hplace : x ≤ y ↔ x.place ≤ y.place := by
    change x.atMost y = true ↔ _
    simp [atMost, isNaN_of_isFinite hx, isNaN_of_isFinite hy]
  rw [hplace, toRat_eq_place hx, toRat_eq_place hy, div_le_div_iff_of_pos_right Magnitude.one_pos, Int.cast_le]

theorem equals_iff_toRat : x.equals y = true ↔ x.toRat = y.toRat := by
  rw [toRat_eq_place hx, toRat_eq_place hy, div_left_inj' Magnitude.one_pos.ne', Int.cast_inj]
  simp [equals, isNaN_of_isFinite hx, isNaN_of_isFinite hy]

theorem greater_abs_toRat : (x.abs.greater y.abs).isFinite = true ∧
    (x.abs.greater y.abs).toRat = max |x.toRat| |y.toRat| := by
  have hx' : x.abs.isFinite = true := by obtain ⟨s, m, rfl⟩ := isFinite_iff.mp hx; rfl
  have hy' : y.abs.isFinite = true := by obtain ⟨s, m, rfl⟩ := isFinite_iff.mp hy; rfl
  have hlt := lt_iff_toRat hx' hy'
  rw [toRat_abs, toRat_abs] at hlt
  simp only [greater, isNaN_of_isFinite hx', isNaN_of_isFinite hy', Bool.false_eq_true, if_false]
  split
  · next h => exact ⟨hy', by rw [toRat_abs, max_eq_right (hlt.mp h).le]⟩
  · next h => exact ⟨hx', by rw [toRat_abs, max_eq_left (not_lt.mp (mt hlt.mpr h))]⟩

end

theorem isZero_iff_toRat {x : Binary64} (hx : x.isFinite = true) : x.isZero = true ↔ x.toRat = 0 := by
  rw [isZero_iff]
  constructor
  · rintro ⟨s, rfl⟩
    rw [toRat_finite, Magnitude.value_zero, mul_zero]
  · intro h
    obtain ⟨s, m, rfl⟩ := isFinite_iff.mp hx
    have hvalue : m.value = 0 := by
      rw [← abs_signOf_mul s (value_nonneg m), ← toRat_finite, h, abs_zero]
    exact ⟨s, congrArg _ (Magnitude.value_injective (hvalue.trans Magnitude.value_zero.symm))⟩

theorem toRat_ne_zero {x : Binary64} (hx : x.isFinite = true) (h : x.isZero = false) : x.toRat ≠ 0 :=
  fun h0 => Bool.false_ne_true (h.symm.trans ((isZero_iff_toRat hx).mpr h0))

theorem toRat_signedZero (s : Bool) : (signedZero s).toRat = 0 :=
  (isZero_iff_toRat rfl).mp (isZero_iff.mpr ⟨s, rfl⟩)

/-! ## Correct rounding of signed numbers -/

/-- `x` is the number `q` correctly rounded, a zero of either sign. -/
def Rounds (x : Binary64) (q : ℚ) : Prop :=
  ∃ s r, 0 ≤ r ∧ x.IsRounding s r ∧ q = signOf s * r

/-- The greatest part of a number that rounding moves it by. -/
def roundoff : ℚ := 1 / 2 ^ 53

/-- What rounding moves a number by where the digits run out: half the least positive number. -/
def underflow : ℚ := 1 / 2 ^ 1075

theorem underflow_pos : 0 < underflow := by
  unfold underflow
  positivity

theorem underflow_le {k : Nat} (hk : k ≤ 1075) : underflow ≤ 1 / 2 ^ k :=
  one_div_le_one_div_of_le (by positivity) (pow_le_pow_right₀ one_le_two hk)

theorem underflow_eq_mul {j k : Nat} (h : j + k = 1075) : underflow = 1 / 2 ^ j * (1 / 2 ^ k) := by
  rw [underflow, div_mul_div_comm, ← pow_add, h, one_mul]

theorem two_mul_underflow_le {x : Binary64} (h : x.toRat ≠ 0) : 2 * underflow ≤ |x.toRat| := by
  have hleast : (1 : ℚ) / 2 ^ 1074 = 2 * underflow := by
    rw [underflow_eq_mul (j := 1074) (k := 1) rfl, mul_left_comm, pow_one,
      mul_one_div_cancel two_ne_zero, mul_one]
  rw [← hleast]
  exact least_le_abs_toRat h

/-- The least positive number that has all its digits. -/
def leastNormal : ℚ := 1 / 2 ^ 1022

theorem underflow_eq : underflow = leastNormal * roundoff := underflow_eq_mul rfl

/-- What a number loses where digits run out is little, however great it is. -/
theorem abs_toRat_mul_underflow_le (x : Binary64) : |x.toRat| * underflow ≤ 1 / 2 ^ 51 := by
  have h := mul_le_mul_of_nonneg_right x.abs_toRat_lt.le underflow_pos.le
  refine h.trans_eq ?_
  rw [underflow, mul_one_div, div_eq_div_iff (by positivity) (by positivity), one_mul, ← pow_add]

theorem Rounds.neg {x : Binary64} {q : ℚ} (h : x.Rounds q) : (-x).Rounds (-q) := by
  obtain ⟨s, r, h0, hr, rfl⟩ := h
  exact ⟨!s, r, h0, hr.neg, by cases s <;> simp [signOf]⟩

theorem IsRounding.rounds {x : Binary64} {q : ℚ} (h0 : 0 ≤ q) (h : x.IsRounding false q) :
    x.Rounds q := ⟨false, q, h0, h, (one_mul q).symm⟩

theorem Rounds.isFinite {x : Binary64} {q : ℚ} (h : x.Rounds q) (hq : |q| < overflow) :
    x.isFinite = true := by
  obtain ⟨s, r, h0, hr, rfl⟩ := h
  rw [abs_signOf_mul s h0] at hq
  cases hr with
  | finite hm => rfl
  | infinite h => exact absurd hq (not_lt_of_ge h)

section
variable {x y : Binary64} {q r : ℚ}

theorem Rounds.exists_isNearest (h : x.Rounds q) (hx : x.isFinite = true) :
    ∃ (s : Bool) (m : Magnitude) (p : ℚ), 0 ≤ p ∧ m.IsNearest p ∧ q = signOf s * p ∧
      x.toRat = signOf s * m.value := by
  obtain ⟨s, p, h0, hp, rfl⟩ := h
  cases hp with
  | finite hm => exact ⟨s, _, p, h0, hm, rfl, rfl⟩
  | infinite h => exact absurd hx Bool.false_ne_true

/-- **Rounding keeps the order,** also across zero. -/
theorem Rounds.le (hx : x.Rounds q) (hy : y.Rounds r) (hxf : x.isFinite = true)
    (hyf : y.isFinite = true) (h : q ≤ r) : x.toRat ≤ y.toRat := by
  obtain ⟨s, m, p, hp0, hm, rfl, hxm⟩ := hx.exists_isNearest hxf
  obtain ⟨t, n, p', hp'0, hn, rfl, hyn⟩ := hy.exists_isNearest hyf
  rw [hxm, hyn]
  have hm0 := value_nonneg m
  have hn0 := value_nonneg n
  cases s with
  | true =>
    cases t with
    | true =>
      rw [signOf_true_mul, signOf_true_mul, neg_le_neg_iff] at h ⊢
      exact hn.le hm h
    | false =>
      rw [signOf_true_mul, signOf_false_mul]
      linarith
  | false =>
    cases t with
    | true =>
      -- Only zero lies between a number that is not negative and one that is not positive.
      rw [signOf_true_mul, signOf_false_mul] at h ⊢
      obtain rfl : p = 0 := by linarith
      obtain rfl : p' = 0 := by linarith
      have hzero := Magnitude.zero.isNearest_value
      rw [Magnitude.value_zero] at hzero
      rw [hm.unique hzero, hn.unique hzero, Magnitude.value_zero, neg_zero]
    | false =>
      rw [signOf_false_mul, signOf_false_mul] at h ⊢
      exact hm.le hn h

/-- **No finite number is nearer** than the rounded one, also across zero. -/
theorem Rounds.nearest (h : x.Rounds q) (hx : x.isFinite = true) (hy : y.isFinite = true) :
    |x.toRat - q| ≤ |y.toRat - q| := by
  obtain ⟨s, m, p, h0, hm, rfl, hxm⟩ := h.exists_isNearest hx
  obtain ⟨t, n, rfl⟩ := isFinite_iff.mp hy
  rw [hxm, abs_signOf_mul_sub]
  -- Sizes are no farther apart than the numbers are.
  have hsizes := abs_abs_sub_abs_le (finite t n).toRat (signOf s * p)
  rw [abs_signOf_mul s h0, toRat_finite, abs_signOf_mul t (value_nonneg n)] at hsizes
  exact (hm.nearest n).trans hsizes

theorem Rounds.abs_sub_le_max (h : x.Rounds q) (hx : x.isFinite = true) :
    |x.toRat - q| ≤ max (|q| * roundoff) underflow := by
  obtain ⟨s, m, p, h0, hm, rfl, hxm⟩ := h.exists_isNearest hx
  rw [hxm, abs_signOf_mul s h0, abs_signOf_mul_sub]
  exact hm.abs_sub_le h0

theorem Rounds.abs_sub_le (h : x.Rounds q) (hx : x.isFinite = true) :
    |x.toRat - q| ≤ |q| * roundoff + underflow := by
  refine (h.abs_sub_le_max hx).trans (max_le_add_of_nonneg ?_ underflow_pos.le)
  exact mul_nonneg (abs_nonneg q) (by norm_num [roundoff])

theorem Rounds.eq_of_steps (h : x.Rounds q) (hx : x.isFinite = true) {k t : Nat} (hk : k < 2 ^ 53)
    (hq : |q| * one = k * 2 ^ t) : x.toRat = q := by
  obtain ⟨s, m, p, h0, hm, rfl, hxm⟩ := h.exists_isNearest hx
  rw [abs_signOf_mul s h0] at hq
  rw [hxm, hm.eq_of_steps hk hq]

end

theorem rounds_zero (s : Bool) : (signedZero s).Rounds 0 := by
  have h := Magnitude.zero.isNearest_value
  rw [Magnitude.value_zero] at h
  exact ⟨s, 0, le_rfl, .finite h, (mul_zero _).symm⟩

theorem rounds_ofQuotient (s : Bool) (num : Nat) {den : Nat} (hd : 0 < den) :
    (ofQuotient s num den).Rounds (signOf s * (num / den / one)) := by
  have h0 : (0 : ℚ) ≤ num / den := by positivity
  exact ⟨s, _, div_nonneg h0 Magnitude.one_pos.le, ofQuotient_isRounding s num hd, rfl⟩

/-! ## Operations on finite numbers -/

section
variable {x y : Binary64} (hx : x.isFinite = true) (hy : y.isFinite = true)
include hx hy

theorem add_eq_ofQuotient : ∃ s, ∃ n : Nat, (x + y = signedZero s ∧ n = 0 ∨ x + y = ofQuotient s n 1) ∧
    x.toRat + y.toRat = signOf s * (n / one) := by
  obtain ⟨s, a, rfl⟩ := isFinite_iff.mp hx
  obtain ⟨t, b, rfl⟩ := isFinite_iff.mp hy
  have hexact : (finite s a).toRat + (finite t b).toRat =
      ((signed s a.units + signed t b.units : Int) : ℚ) / one := by
    rw [Int.cast_add, cast_signed, cast_signed, toRat_finite, toRat_finite, Magnitude.value,
      Magnitude.value]
    ring
  rw [hexact]
  change ∃ u, ∃ n : Nat, (add (finite s a) (finite t b) = signedZero u ∧ n = 0 ∨
    add (finite s a) (finite t b) = ofQuotient u n 1) ∧ _
  simp only [add]
  generalize signed s a.units + signed t b.units = sum
  by_cases h : sum = 0
  · subst h
    exact ⟨s && t, 0, .inl ⟨if_pos rfl, rfl⟩, by simp⟩
  · refine ⟨decide (sum < 0), sum.natAbs, .inr (if_neg h), ?_⟩
    have hsum := signOf_decide_mul_abs (sum : ℚ)
    have habs : |(sum : ℚ)| = (sum.natAbs : ℚ) := by
      rw [← Int.cast_abs, Int.abs_eq_natAbs, Int.cast_natCast]
    have hlt : decide ((sum : ℚ) < 0) = decide (sum < 0) := by
      rw [decide_eq_decide]
      exact_mod_cast Iff.rfl
    rw [habs, hlt] at hsum
    rw [← mul_div_assoc, hsum]

theorem rounds_add : (x + y).Rounds (x.toRat + y.toRat) := by
  obtain ⟨s, n, hsum, hexact⟩ := add_eq_ofQuotient hx hy
  rw [hexact]
  rcases hsum with ⟨hsum, rfl⟩ | hsum
  · rw [hsum, Nat.cast_zero, zero_div, mul_zero]
    exact rounds_zero s
  · have h := rounds_ofQuotient s n Nat.one_pos
    rw [Nat.cast_one, div_one] at h
    rwa [hsum]

/-- **A sum has a relative error only.** -/
theorem toRat_add_sub_le (h : (x + y).isFinite = true) :
    |(x + y).toRat - (x.toRat + y.toRat)| ≤ |x.toRat + y.toRat| * roundoff := by
  obtain ⟨s, n, -, hunits⟩ := add_eq_ofQuotient hx hy
  obtain ⟨t, m, p, h0, hm, hexact, hvalue⟩ := (rounds_add hx hy).exists_isNearest h
  have hone := Magnitude.one_pos
  have hp : p = n / one := by
    rw [← abs_signOf_mul t h0, ← hexact, hunits,
      abs_signOf_mul s (div_nonneg (Nat.cast_nonneg n) hone.le)]
  have herror := hm.abs_sub_le_of_units (k := n) (by rw [hp, div_mul_cancel₀ _ hone.ne'])
  rw [hexact, hvalue, abs_signOf_mul t h0, ← mul_sub, abs_mul]
  have hsign : |signOf t| = 1 := by cases t <;> simp [signOf]
  rwa [hsign, one_mul]

theorem rounds_sub : (x - y).Rounds (x.toRat - y.toRat) := by
  have h := rounds_add hx ((isFinite_neg y).trans hy)
  rw [toRat_neg, ← sub_eq_add_neg] at h
  exact h

theorem toRat_sub_sub_le (h : (x - y).isFinite = true) :
    |(x - y).toRat - (x.toRat - y.toRat)| ≤ |x.toRat - y.toRat| * roundoff := by
  have herror := toRat_add_sub_le hx ((isFinite_neg y).trans hy) h
  rw [toRat_neg, ← sub_eq_add_neg] at herror
  exact herror

theorem rounds_mul : (x * y).Rounds (x.toRat * y.toRat) := by
  obtain ⟨s, a, rfl⟩ := isFinite_iff.mp hx
  obtain ⟨t, b, rfl⟩ := isFinite_iff.mp hy
  have hone : 0 < one := by exact_mod_cast Magnitude.one_pos
  have h := rounds_ofQuotient (s != t) (a.units * b.units) hone
  have hexact : (finite s a).toRat * (finite t b).toRat =
      signOf (s != t) * ((a.units * b.units : Nat) / one / one) := by
    rw [toRat_finite, toRat_finite, signOf_bne, Magnitude.value, Magnitude.value]
    push_cast
    ring
  rw [hexact]
  exact h

theorem rounds_div (h0 : y.toRat ≠ 0) : (x / y).Rounds (x.toRat / y.toRat) := by
  obtain ⟨s, a, rfl⟩ := isFinite_iff.mp hx
  obtain ⟨t, b, rfl⟩ := isFinite_iff.mp hy
  have hunits : b.units ≠ 0 := by
    intro h
    rw [toRat_finite, Magnitude.value, h, Nat.cast_zero, zero_div, mul_zero] at h0
    exact h0 rfl
  have hdigits : b.digits ≠ 0 := by
    intro h
    rw [Magnitude.units_eq, h, Nat.zero_mul] at hunits
    exact hunits rfl
  rw [div_finite, if_neg hdigits]
  have h := rounds_ofQuotient (s != t) (a.units * one) (Nat.pos_of_ne_zero hunits)
  have hexact : (finite s a).toRat / (finite t b).toRat =
      signOf (s != t) * ((a.units * one : Nat) / b.units / one) := by
    have hone := Magnitude.one_pos.ne'
    have hb : (b.units : ℚ) ≠ 0 := by exact_mod_cast hunits
    have ht : signOf t * signOf t = 1 := by cases t <;> simp [signOf]
    have ht0 : signOf t ≠ 0 := left_ne_zero_of_mul_eq_one ht
    rw [toRat_finite, toRat_finite, signOf_bne, Magnitude.value, Magnitude.value]
    push_cast
    field_simp
    rw [pow_two, ht, mul_one]
  rwa [hexact]

end

/-! ## What a finite result says of the operands -/

section
variable {x y : Binary64}

theorem isFinite_of_add (h : (x + y).isFinite = true) : x.isFinite = true ∧ y.isFinite = true := by
  change (add x y).isFinite = true at h
  cases x with
  | nan => cases h
  | infinite s =>
    cases y with
    | nan => cases h
    | infinite t => cases s <;> cases t <;> cases h
    | finite t b => cases h
  | finite s a =>
    cases y with
    | nan => cases h
    | infinite t => cases h
    | finite t b => exact ⟨rfl, rfl⟩

theorem isFinite_of_abs_le (h : x.abs ≤ y) (hy : y.isFinite = true) : x.isFinite = true := by
  obtain ⟨t, b, rfl⟩ := isFinite_iff.mp hy
  change x.abs.atMost (finite t b) = true at h
  cases x with
  | nan => cases h
  | infinite s =>
    have hb := units_lt_place_infinite b
    simp only [atMost, abs, place, signed, Bool.and_eq_true, decide_eq_true_eq, Bool.false_eq_true,
      if_false] at h
    split at h <;> omega
  | finite s a => rfl

theorem isFinite_of_greater (hx : x.isNaN = false) (hy : y.isNaN = false)
    (h : (x.abs.greater y.abs).isFinite = true) : x.isFinite = true ∧ y.isFinite = true := by
  have hx' : x.abs.isNaN = false := by cases x <;> first | rfl | cases hx
  have hy' : y.abs.isNaN = false := by cases y <;> first | rfl | cases hy
  have hlt := lt_iff_place hx' hy'
  simp only [greater, hx', hy', Bool.false_eq_true, if_false] at h
  cases x with
  | nan => cases hx
  | infinite s =>
    cases y with
    | nan => cases hy
    | infinite t => split at h <;> cases h
    | finite t b =>
      have hb := units_lt_place_infinite b
      rw [if_neg] at h
      · cases h
      · rw [hlt]
        simp only [abs, place, signed, Bool.false_eq_true, if_false]
        omega
  | finite s a =>
    cases y with
    | nan => cases hy
    | infinite t =>
      have ha := units_lt_place_infinite a
      rw [if_pos] at h
      · cases h
      · rw [hlt]
        simp only [abs, place, signed, Bool.false_eq_true, if_false]
        omega
    | finite t b => exact ⟨rfl, rfl⟩

theorem isFinite_of_sub (h : (x - y).isFinite = true) : x.isFinite = true ∧ y.isFinite = true := by
  have h := isFinite_of_add (y := -y) h
  rwa [isFinite_neg] at h

theorem isFinite_of_mul (h : (x * y).isFinite = true) : x.isFinite = true ∧ y.isFinite = true := by
  change (mul x y).isFinite = true at h
  cases x with
  | nan => cases h
  | infinite s =>
    cases y with
    | nan => cases h
    | infinite t => cases h
    | finite t b =>
      simp only [mul] at h
      split at h <;> cases h
  | finite s a =>
    cases y with
    | nan => cases h
    | infinite t =>
      simp only [mul] at h
      split at h <;> cases h
    | finite t b => exact ⟨rfl, rfl⟩

theorem isFinite_of_div (h : (x / y).isFinite = true) : x.isFinite = true := by
  change (div x y).isFinite = true at h
  cases x with
  | nan => cases h
  | infinite s => cases y <;> cases h
  | finite s a => rfl

end

/-! ## Powers of two -/

theorem toRat_ofNat {n : Nat} (hn : n < 2 ^ 53) :
    (OfNat.ofNat n : Binary64).isFinite = true ∧ (OfNat.ofNat n : Binary64).toRat = n := by
  have h : (ofInt n).Rounds n := by
    have hround := ofInt_isRounding n
    have hneg : decide ((n : Int) < 0) = false := by simp
    rw [Int.natAbs_natCast, hneg] at hround
    exact hround.rounds (Nat.cast_nonneg n)
  have hfinite : (ofInt n).isFinite = true := by
    refine h.isFinite ?_
    have hlt : (n : ℚ) < 2 ^ 53 := by exact_mod_cast hn
    have hroom : (1 : ℚ) ≤ 2 ^ 970 := one_le_pow₀ one_le_two
    rw [Nat.abs_cast, overflow]
    generalize (2 : ℚ) ^ 970 = a at *
    linarith only [hlt, hroom]
  refine ⟨hfinite, h.eq_of_steps hfinite (k := n) (t := 1074) hn ?_⟩
  rw [Nat.abs_cast, Magnitude.cast_one]

theorem toRat_zero : (0 : Binary64).toRat = 0 := (toRat_ofNat (by decide)).2.trans Nat.cast_zero

theorem lt_zero_iff_toRat {x : Binary64} (hx : x.isFinite = true) : x < 0 ↔ x.toRat < 0 := by
  rw [lt_iff_toRat hx rfl, toRat_zero]

theorem toRat_pos {x : Binary64} (hx : x.isFinite = true) (hneg : ¬ x < 0) (h0 : x.isZero = false) :
    0 < x.toRat :=
  lt_of_le_of_ne (not_lt.mp (mt (lt_zero_iff_toRat hx).mpr hneg)) (toRat_ne_zero hx h0).symm

theorem toRat_one : (1 : Binary64).toRat = 1 := (toRat_ofNat (by decide)).2.trans Nat.cast_one

theorem toRat_lit (n : Nat) [n.AtLeastTwo] (hn : n < 2 ^ 53) :
    (OfNat.ofNat n : Binary64).toRat = OfNat.ofNat n := (toRat_ofNat hn).2

/-- **A power of two is multiplied exactly,** if nothing overflows. -/
theorem toRat_mul_of_two_pow {x y : Binary64} {k : Nat} (hx : x.toRat = 2 ^ k)
    (h : (x * y).isFinite = true) : (x * y).toRat = x.toRat * y.toRat := by
  obtain ⟨hxf, hyf⟩ := isFinite_of_mul h
  obtain ⟨s, m, rfl⟩ := isFinite_iff.mp hyf
  refine (rounds_mul hxf hyf).eq_of_steps h (k := m.digits) (t := k + m.scale) m.digits_lt_two_pow ?_
  have hpow : (0 : ℚ) ≤ 2 ^ k * m.value := mul_nonneg (by positivity) (value_nonneg m)
  have hsign : (2 : ℚ) ^ k * (signOf s * m.value) = signOf s * (2 ^ k * m.value) := by ring
  rw [hx, toRat_finite, hsign, abs_signOf_mul s hpow, mul_assoc, Magnitude.value,
    div_mul_cancel₀ _ Magnitude.one_pos.ne', Magnitude.units_eq, pow_add]
  push_cast
  ring

/-! ## Quotients without a negative zero -/

theorem isFinite_add_zero (x : Binary64) : (x + 0).isFinite = x.isFinite := by
  rw [add_zero_eq]
  split
  · next h => rw [h]; rfl
  · rfl

theorem toRat_add_zero (x : Binary64) : (x + 0).toRat = x.toRat := by
  rw [add_zero_eq]
  split
  · next h =>
    rw [h, signedZero, signedZero, toRat_finite, toRat_finite, Magnitude.value_zero, mul_zero, mul_zero]
  · rfl

end Binary64
end WorkedEquations
