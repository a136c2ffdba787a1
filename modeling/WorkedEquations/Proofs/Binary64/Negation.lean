/-
Changing signs in arithmetic.

Products and quotients follow the signs of their operands exactly, and rounding
does too. A sum whose operands all change sign changes sign as well, except
that an exact zero may keep its own: `Opposite` says just that.

From sums and differences (`add_opposite`, `sub_swap_opposite`) the signs go
into a quotient and cancel there if it ends with adding zero, whatever the signs
of the zeros were (`Opposite.div_add_zero`). The greater of two magnitudes does
not depend on their order, infinities and NaN included (`greater_abs_comm`).
-/
import WorkedEquations.Binary64.Order
import WorkedEquations.Proofs.Binary64.Exact

namespace WorkedEquations
namespace Binary64

/-! ## Negation -/

theorem neg_infinite (s : Bool) : -infinite s = infinite !s := rfl

theorem neg_finite (s : Bool) (m : Magnitude) : -finite s m = finite (!s) m := rfl

@[simp] theorem neg_neg (x : Binary64) : - -x = x := by
  cases x with
  | nan => rfl
  | infinite s => rw [neg_infinite, neg_infinite, Bool.not_not]
  | finite s m => rw [neg_finite, neg_finite, Bool.not_not]

@[simp] theorem isFinite_neg (x : Binary64) : (-x).isFinite = x.isFinite := by
  cases x <;> rfl

@[simp] theorem isNaN_neg (x : Binary64) : (-x).isNaN = x.isNaN := by
  cases x <;> rfl

@[simp] theorem abs_neg (x : Binary64) : (-x).abs = x.abs := by
  cases x <;> rfl

theorem isZero_iff {x : Binary64} : x.isZero = true ↔ ∃ s, x = finite s .zero := by
  cases x with
  | nan => simp [isZero, equals, isNaN]
  | infinite s =>
    cases s <;> simp [isZero, equals, isNaN, place, signed, signedZero, Magnitude.units, Magnitude.zero]
  | finite s m =>
    have hplace : (finite s m).isZero = true ↔ m.units = 0 := by
      cases s <;> simp [isZero, equals, isNaN, place, signed, signedZero, Magnitude.units, Magnitude.zero]
    rw [hplace]
    constructor
    · intro h
      exact ⟨s, congrArg (finite s) (Magnitude.units_injective h)⟩
    · rintro ⟨t, h⟩
      cases h
      rfl

@[simp] theorem isZero_neg (x : Binary64) : (-x).isZero = x.isZero := by
  rw [Bool.eq_iff_iff, isZero_iff, isZero_iff]
  constructor
  · rintro ⟨s, h⟩
    exact ⟨!s, by rw [← neg_neg x, h, neg_finite]⟩
  · rintro ⟨s, rfl⟩
    exact ⟨!s, rfl⟩

theorem signedZero_not (s : Bool) : signedZero (!s) = -signedZero s := rfl

/-- **Rounding follows the sign.** -/
theorem ofQuotient_not (s : Bool) (num den : Nat) : ofQuotient (!s) num den = -ofQuotient s num den := by
  unfold ofQuotient
  split <;> rfl

/-! ## Products and quotients -/

theorem mul_comm (x y : Binary64) : x * y = y * x := by
  change mul x y = mul y x
  have hsign : ∀ s t : Bool, (s != t) = (t != s) := by decide
  cases x <;> cases y <;> simp only [mul, hsign, Nat.mul_comm]

theorem neg_mul (x y : Binary64) : -x * y = -(x * y) := by
  change mul (neg x) y = neg (mul x y)
  cases x with
  | nan => rfl
  | infinite s =>
    cases y with
    | nan => rfl
    | infinite t => simp only [mul, neg, Bool.not_bne]
    | finite t b =>
      simp only [mul, neg, Bool.not_bne]
      split <;> rfl
  | finite s a =>
    cases y with
    | nan => rfl
    | infinite t =>
      simp only [mul, neg, Bool.not_bne]
      split <;> rfl
    | finite t b =>
      simp only [mul, neg, Bool.not_bne]
      exact ofQuotient_not _ _ _

theorem mul_neg (x y : Binary64) : x * -y = -(x * y) := by
  rw [mul_comm, neg_mul, mul_comm]

theorem div_finite (s t : Bool) (a b : Magnitude) : finite s a / finite t b =
    if b.digits = 0 then if a.digits = 0 then nan else infinite (s != t)
    else ofQuotient (s != t) (a.units * Magnitude.one) b.units := rfl

theorem neg_div (x y : Binary64) : -x / y = -(x / y) := by
  cases x with
  | nan => rfl
  | infinite s =>
    cases y with
    | nan => rfl
    | infinite t => rfl
    | finite t b =>
      change infinite ((!s) != t) = infinite (!(s != t))
      rw [Bool.not_bne]
  | finite s a =>
    cases y with
    | nan => rfl
    | infinite t =>
      change signedZero ((!s) != t) = -signedZero (s != t)
      rw [Bool.not_bne, signedZero_not]
    | finite t b =>
      rw [neg_finite, div_finite, div_finite, Bool.not_bne, ofQuotient_not]
      split_ifs
      · rfl
      · rfl
      · rfl

theorem div_neg (x y : Binary64) : x / -y = -(x / y) := by
  cases x with
  | nan => rfl
  | infinite s =>
    cases y with
    | nan => rfl
    | infinite t => rfl
    | finite t b =>
      change infinite (s != (!t)) = infinite (!(s != t))
      rw [Bool.bne_not]
  | finite s a =>
    cases y with
    | nan => rfl
    | infinite t =>
      change signedZero (s != (!t)) = -signedZero (s != t)
      rw [Bool.bne_not, signedZero_not]
    | finite t b =>
      rw [neg_finite, div_finite, div_finite, Bool.bne_not, ofQuotient_not]
      split_ifs
      · rfl
      · rfl
      · rfl

theorem neg_div_neg (x y : Binary64) : -x / -y = x / y := by
  rw [neg_div, div_neg, neg_neg]

/-! ## Opposite numbers -/

/-- `y` is `x` with the other sign, or both are zeros, of whatever signs. -/
def Opposite (x y : Binary64) : Prop := y = -x ∨ x.isZero = true ∧ y.isZero = true

theorem opposite_neg (x : Binary64) : Opposite x (-x) := .inl rfl

namespace Opposite
variable {x y : Binary64}

theorem isFinite_eq (h : Opposite x y) : y.isFinite = x.isFinite := by
  rcases h with rfl | ⟨hx, hy⟩
  · exact isFinite_neg x
  · obtain ⟨s, rfl⟩ := isZero_iff.mp hx
    obtain ⟨t, rfl⟩ := isZero_iff.mp hy
    rfl

theorem isZero_eq (h : Opposite x y) : y.isZero = x.isZero := by
  rcases h with rfl | ⟨hx, hy⟩
  · exact isZero_neg x
  · rw [hx, hy]

theorem abs_eq (h : Opposite x y) : y.abs = x.abs := by
  rcases h with rfl | ⟨hx, hy⟩
  · exact abs_neg x
  · obtain ⟨s, rfl⟩ := isZero_iff.mp hx
    obtain ⟨t, rfl⟩ := isZero_iff.mp hy
    rfl

end Opposite

theorem add_comm (x y : Binary64) : x + y = y + x := by
  change add x y = add y x
  cases x with
  | nan => cases y <;> rfl
  | infinite s =>
    cases y with
    | nan => rfl
    | infinite t => cases s <;> cases t <;> rfl
    | finite t b => rfl
  | finite s a =>
    cases y with
    | nan => rfl
    | infinite t => rfl
    | finite t b => simp only [add, Int.add_comm, Bool.and_comm]

theorem signed_not (s : Bool) (n : Nat) : signed (!s) n = -signed s n := by
  cases s <;> simp [signed]

/-- **A sum of opposite numbers.** An exact zero is positive unless both operands carry a minus, so
its sign need not change. -/
theorem add_opposite (x y : Binary64) : Opposite (x + y) (-x + -y) := by
  change Opposite (add x y) (add (neg x) (neg y))
  cases x with
  | nan => exact .inl rfl
  | infinite s =>
    cases y with
    | nan => exact .inl rfl
    | infinite t => left; cases s <;> cases t <;> rfl
    | finite t b => exact .inl rfl
  | finite s a =>
    cases y with
    | nan => exact .inl rfl
    | infinite t => exact .inl rfl
    | finite t b =>
      have hsum : signed (!s) a.units + signed (!t) b.units = -(signed s a.units + signed t b.units) := by
        rw [signed_not, signed_not]
        omega
      simp only [add, neg, hsum]
      generalize signed s a.units + signed t b.units = sum
      by_cases h : sum = 0
      · right
        subst h
        exact ⟨isZero_iff.mpr ⟨_, rfl⟩, isZero_iff.mpr ⟨_, rfl⟩⟩
      · left
        have hsign : decide (-sum < 0) = !decide (sum < 0) := by
          rw [← decide_not, decide_eq_decide]
          omega
        have hne : ¬ -sum = 0 := by omega
        rw [if_neg h, if_neg hne, hsign, Int.natAbs_neg, ofQuotient_not]

/-- **A difference the other way round.** -/
theorem sub_swap_opposite (x y : Binary64) : Opposite (x - y) (y - x) := by
  have h := add_opposite x (-y)
  rwa [neg_neg, add_comm (-x) y] at h

theorem sub_opposite (x y : Binary64) : Opposite (x - y) (-x - -y) := add_opposite x (-y)

/-! ## Quotients without a negative zero -/

/-- A zero over a number: no number over NaN and over zero, a positive zero else. -/
theorem zero_div_add_zero (s : Bool) (y : Binary64) : finite s .zero / y + 0 =
    if y.isNaN || y.isZero then nan else signedZero false := by
  have hzero : ∀ u, signedZero u + 0 = signedZero false := by
    intro u
    rw [add_zero_eq]
    cases u <;> rfl
  cases y with
  | nan => rfl
  | infinite t =>
    have hfinite : (infinite t).isZero = false := by cases t <;> rfl
    rw [hfinite]
    exact hzero _
  | finite t b =>
    by_cases hb : b = .zero
    · subst hb
      rw [isZero_iff.mpr ⟨t, rfl⟩]
      rfl
    · have hunits : 0 < b.units := Nat.pos_of_ne_zero fun h => hb (Magnitude.units_injective h)
      have hdigits : b.digits ≠ 0 := by
        intro h
        rw [Magnitude.units_eq, h, Nat.zero_mul] at hunits
        exact absurd hunits (Nat.lt_irrefl 0)
      have hnot : (finite t b).isZero = false := by
        rw [Bool.eq_false_iff, ne_eq, isZero_iff]
        rintro ⟨u, h⟩
        cases h
        exact hb rfl
      have hround : ofQuotient (s != t) 0 b.units = signedZero (s != t) := by
        have h := ofQuotient_isRounding (s != t) 0 hunits
        rw [Nat.cast_zero, zero_div, zero_div] at h
        exact h.unique (signedZero_isRounding _ le_rfl (by simp))
      have hquotient : finite s .zero / finite t b = signedZero (s != t) := by
        rw [div_finite, if_neg hdigits, show Magnitude.zero.units = 0 from rfl, Nat.zero_mul, hround]
      rw [hquotient, hzero, hnot]
      rfl

/-- **Signs cancel in a quotient** without a negative zero. -/
theorem Opposite.div_add_zero {x x' : Binary64} (h : Opposite x x') (y : Binary64) :
    x' / -y + 0 = x / y + 0 := by
  rcases h with rfl | ⟨hx, hx'⟩
  · rw [neg_div_neg]
  · obtain ⟨s, rfl⟩ := isZero_iff.mp hx
    obtain ⟨t, rfl⟩ := isZero_iff.mp hx'
    rw [zero_div_add_zero, zero_div_add_zero, isNaN_neg, isZero_neg]

/-! ## Comparisons -/

theorem place_neg (x : Binary64) : (-x).place = -x.place := by
  cases x with
  | nan => rfl
  | infinite s => exact signed_not s _
  | finite s m => exact signed_not s _

theorem equals_neg (x y : Binary64) : (-x).equals (-y) = x.equals y := by
  simp only [equals, isNaN_neg, place_neg, Int.neg_inj]

theorem units_lt_place_infinite (m : Magnitude) : m.units < 1 <<< 2098 := by
  have hlast : ∀ last, m.scale ≤ last → 2 ^ 53 * 2 ^ m.scale ≤ 1 <<< (53 + last) := by
    intro last h
    rw [← Nat.pow_add, Nat.one_shiftLeft]
    exact Nat.pow_le_pow_right (by decide) (Nat.add_le_add_left h 53)
  exact Nat.lt_of_lt_of_le m.units_lt (hlast 2045 m.scale_le)

theorem abs_eq_of_place {x y : Binary64} (hx : x.isNaN = false) (hy : y.isNaN = false)
    (h : x.abs.place = y.abs.place) : x.abs = y.abs := by
  cases x with
  | nan => cases hx
  | infinite s =>
    cases y with
    | nan => cases hy
    | infinite t => rfl
    | finite t b =>
      have hb := units_lt_place_infinite b
      simp only [abs, place, signed, Bool.false_eq_true, if_false, Int.natCast_inj] at h
      omega
  | finite s a =>
    cases y with
    | nan => cases hy
    | infinite t =>
      have ha := units_lt_place_infinite a
      simp only [abs, place, signed, Bool.false_eq_true, if_false, Int.natCast_inj] at h
      omega
    | finite t b =>
      simp only [abs, place, signed, Bool.false_eq_true, if_false, Int.natCast_inj] at h
      rw [abs, abs, Magnitude.units_injective h]

theorem lt_iff_place {x y : Binary64} (hx : x.isNaN = false) (hy : y.isNaN = false) :
    x < y ↔ x.place < y.place := by
  change x.less y = true ↔ _
  simp [less, hx, hy]

theorem greater_abs_comm (x y : Binary64) : x.abs.greater y.abs = y.abs.greater x.abs := by
  have habs : ∀ z : Binary64, z.abs.isNaN = z.isNaN := by
    intro z
    cases z <;> rfl
  have hnan : ∀ z : Binary64, z.isNaN = true → z.abs = nan := by
    intro z hz
    cases z with
    | nan => rfl
    | infinite s => cases hz
    | finite s m => cases hz
  cases hx : x.isNaN with
  | true =>
    cases hy : y.isNaN with
    | true => rw [hnan x hx, hnan y hy]
    | false => simp [greater, habs, hx, hy]
  | false =>
    cases hy : y.isNaN with
    | true => simp [greater, habs, hx, hy]
    | false =>
      have hx' := (habs x).trans hx
      have hy' := (habs y).trans hy
      have hxy := lt_iff_place hx' hy'
      have hyx := lt_iff_place hy' hx'
      simp only [greater, hx', hy', Bool.false_eq_true, if_false]
      rcases lt_trichotomy x.abs.place y.abs.place with h | h | h
      · rw [if_pos (hxy.mpr h), if_neg (by rw [hyx]; omega)]
      · rw [abs_eq_of_place hx hy h]
      · rw [if_pos (hyx.mpr h), if_neg (by rw [hxy]; omega)]

end Binary64
end WorkedEquations
