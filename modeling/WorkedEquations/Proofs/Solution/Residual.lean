/-
What is left of an equation when its values are put back into it.

The values are computed by formulas whose every step is rounded once, so that
what is left has a bound in exact numbers. It is put beside the greatest term of
the equation at the values: `linear_residual` for a linear equation, whatever the
exponents, and `quadratic_residual` for the roots of a quadratic. The root
farther from zero leaves next to nothing. The nearer one is what two numbers of
like size leave of each other, and with it comes what `b² / a` was rounded by.
-/
import WorkedEquations.Proofs.Binary64.Range
import WorkedEquations.Proofs.Binary64.SquareRoot
import WorkedEquations.Proofs.Solution.Decisive

namespace WorkedEquations

open Binary64 (roundoff underflow underflow_pos)

/-! ## Terms that should cancel -/

/-- What is left of terms that should cancel. -/
def residual (terms : List ℚ) : ℚ := |terms.sum|

/-- The greatest of the terms, or one if they are all smaller. -/
def termScale (terms : List ℚ) : ℚ := terms.foldr (fun t greatest => max |t| greatest) 1

theorem le_mul_max_div (s t : ℚ) {a : ℚ} (ha : 0 < a) : t ≤ a * max s (t / a) :=
  (div_le_iff₀' ha).mp (le_max_right _ _)

theorem one_le_termScale (terms : List ℚ) : 1 ≤ termScale terms := by
  induction terms with
  | nil => exact le_rfl
  | cons t ts ih => exact ih.trans (le_max_right _ _)

theorem abs_le_termScale {t : ℚ} {terms : List ℚ} (h : t ∈ terms) : |t| ≤ termScale terms := by
  induction h with
  | head ts => exact le_max_left _ _
  | tail _ _ ih => exact ih.trans (le_max_right _ _)

/-! ## Quotients -/

theorem Derivation.isFinite_of_quotient {x y : Binary64} (h : (quotient x y).isFinite = true) :
    x.isFinite = true := by
  rw [quotient, Binary64.isFinite_add_zero] at h
  exact Binary64.isFinite_of_div h

/-- **A quotient times its divisor** is the dividend, up to one rounding. -/
theorem Derivation.quotient_mul_sub_le {x y : Binary64} (hy : y.isFinite = true)
    (h0 : y.toRat ≠ 0) (h : (quotient x y).isFinite = true) : x.isFinite = true ∧
      |(quotient x y).toRat * y.toRat - x.toRat| ≤ |x.toRat| * roundoff + |y.toRat| * underflow := by
  have hx := isFinite_of_quotient h
  refine ⟨hx, ?_⟩
  unfold quotient at h ⊢
  rw [Binary64.isFinite_add_zero] at h
  have herror := (Binary64.rounds_div hx hy h0).abs_sub_le h
  have hy0 : |y.toRat| ≠ 0 := abs_ne_zero.mpr h0
  rw [Binary64.toRat_add_zero]
  calc |(x / y).toRat * y.toRat - x.toRat|
      = |(x / y).toRat - x.toRat / y.toRat| * |y.toRat| := by
        rw [← abs_mul, sub_mul, div_mul_cancel₀ _ h0]
    _ ≤ (|x.toRat / y.toRat| * roundoff + underflow) * |y.toRat| :=
        mul_le_mul_of_nonneg_right herror (abs_nonneg _)
    _ = |x.toRat| * roundoff + |y.toRat| * underflow := by
        rw [abs_div]
        field_simp

/-! ## The value of a linear equation -/

namespace Derivation
variable {a b c x : Binary64} {v : Char}

theorem value_of_linear (h : (linear a b c v).solution = .values [x]) :
    a.isZero = false ∧ (c - b).isFinite = true ∧ x.isFinite = true ∧ x = quotient (c - b) a := by
  have hend := linear_ending a b c v
  generalize linear a b c v = d at h hend
  cases hend with
  | divided _ hx ha hrest hfinite hvalue =>
    cases h
    exact ⟨ha, hrest ▸ hfinite, hx.1, by rw [hvalue, hrest]⟩
  | infinitelyMany | noSolution | notFinite => cases h

/-- Put back, the value leaves what the difference and the quotient were rounded by. -/
theorem linear_sub_le (ha : a.isFinite = true) (h : (linear a b c v).solution = .values [x]) :
    |a.toRat * x.toRat + b.toRat - c.toRat| ≤ 3 * roundoff * (|b.toRat| + |c.toRat|) + 1 / 2 ^ 51 := by
  obtain ⟨hzero, hrest, hx, rfl⟩ := value_of_linear h
  obtain ⟨hc, hb⟩ := Binary64.isFinite_of_sub hrest
  have hdifference := Binary64.toRat_sub_sub_le hc hb hrest
  obtain ⟨-, hquotient⟩ := quotient_mul_sub_le ha (Binary64.toRat_ne_zero ha hzero) hx
  have hlost := a.abs_toRat_mul_underflow_le
  generalize (quotient (c - b) a).toRat = X at *
  generalize (c - b).toRat = rest at *
  have hparts : a.toRat * X + b.toRat - c.toRat =
      (X * a.toRat - rest) + (rest - (c.toRat - b.toRat)) := by ring
  have hgap := abs_sub c.toRat b.toRat
  have hgap0 := abs_nonneg (c.toRat - b.toRat)
  have hsize := abs_sub_abs_le_abs_sub rest (c.toRat - b.toRat)
  have htri := abs_add_le (X * a.toRat - rest) (rest - (c.toRat - b.toRat))
  rw [hparts]
  rw [roundoff] at *
  linarith

end Derivation

/-- The terms of a linear equation at a value. -/
def linearTerms (a b c x : Binary64) : List ℚ := [a.toRat * x.toRat, b.toRat, -c.toRat]

/-- **The value of a linear equation, put back.** What is left is below a millionth of the greatest
term, or of one, however far the exponents of the coefficients lie apart. -/
theorem linear_residual {a b c x : Binary64} {v : Char} (ha : a.isFinite = true)
    (h : (Derivation.linear a b c v).solution = .values [x]) :
    residual (linearTerms a b c x) ≤ 1 / 10 ^ 6 * termScale (linearTerms a b c x) := by
  have hleft := Derivation.linear_sub_le ha h
  have hsum : residual (linearTerms a b c x) = |a.toRat * x.toRat + b.toRat - c.toRat| := by
    simp only [residual, linearTerms, List.sum_cons, List.sum_nil, add_zero, ← sub_eq_add_neg,
      add_sub_assoc]
  have hone := one_le_termScale (linearTerms a b c x)
  have hb : |b.toRat| ≤ termScale (linearTerms a b c x) := abs_le_termScale (by simp [linearTerms])
  have hc : |-c.toRat| ≤ termScale (linearTerms a b c x) := abs_le_termScale (by simp [linearTerms])
  rw [abs_neg] at hc
  rw [hsum]
  rw [roundoff] at hleft
  linarith

/-- Two decimals that cancel to their last digit, over a coefficient so great that the quotient has
few digits left. -/
theorem linear_residual_cancelling :
    ∃ a b c x : Binary64, a = .ofDecimal false 1 300 ∧ b = .ofDecimal false 1 (-1) ∧
      c = .ofDecimal false 10000000000000002 (-17) ∧ x = .ofBits 0x00000000002adc40 ∧
      (Derivation.linear a b c 'x').solution = .values [x] ∧
      residual (linearTerms a b c x) ≤ 1 / 10 ^ 6 * termScale (linearTerms a b c x) := by
  have h : (Derivation.linear (.ofDecimal false 1 300) (.ofDecimal false 1 (-1))
      (.ofDecimal false 10000000000000002 (-17)) 'x').solution = .values [.ofBits 0x00000000002adc40] := by
    decide +kernel
  exact ⟨_, _, _, _, rfl, rfl, rfl, rfl, h, linear_residual (by decide +kernel) h⟩

/-! ## The roots of a quadratic -/

/-- `X` comes from the formula for the roots of `A·X² + B·X + C`, with `D` for the discriminant and
`w` for a root of it. -/
structure RootFormula (A B D w X : ℚ) : Prop where
  nonneg : 0 ≤ D
  square : |w ^ 2 - D| ≤ D * (4 * roundoff)
  range : |w| * underflow ≤ 1 / 2 ^ 51
  value : |2 * A * X + B - w| ≤ 3 * roundoff * |w - B| + 2 * (|A| * underflow)

section
variable {A B C D w X : ℚ}

/-- Completing the square: what is left comes from the root, from the discriminant, and from the
value. -/
theorem four_mul_residual (A B C D w X : ℚ) : 4 * A * (A * X ^ 2 + B * X + C) =
    (w ^ 2 - D) + (D - (B ^ 2 - 4 * A * C)) + (2 * A * X + B - w) * (2 * w + (2 * A * X + B - w)) := by
  ring

theorem RootFormula.value_part_le (h : RootFormula A B D w X) (hA : |A| * underflow ≤ 1 / 2 ^ 51)
    (hB : |B| * underflow ≤ 1 / 2 ^ 51) :
    |(2 * A * X + B - w) * (2 * w + (2 * A * X + B - w))| ≤
      9 * roundoff * (|w| + |B|) ^ 2 + |A| / 10 ^ 14 := by
  obtain ⟨-, -, hrange, hvalue⟩ := h
  have hsum : (|w| + |B|) * underflow ≤ 1 / 2 ^ 50 := by
    rw [add_mul]
    linarith
  have hpart : |2 * A * X + B - w| ≤ 3 * roundoff * (|w| + |B|) + 2 * (|A| * underflow) := by
    refine hvalue.trans (add_le_add_left (mul_le_mul_of_nonneg_left (abs_sub _ _) ?_) _)
    norm_num [roundoff]
  have hrest : |2 * w + (2 * A * X + B - w)| ≤ 3 * (|w| + |B|) + 2 * (|A| * underflow) := by
    have htwice : |2 * w| = 2 * |w| := by rw [abs_mul, abs_two]
    have := abs_add_le (2 * w) (2 * A * X + B - w)
    have := abs_nonneg w
    have := abs_nonneg B
    rw [roundoff] at hpart
    linarith
  -- Each product with a part of the underflow keeps the factor `|A|`.
  have hcross : (|w| + |B|) * (|A| * underflow) ≤ |A| * (1 / 2 ^ 50) := by
    have := mul_le_mul_of_nonneg_left hsum (abs_nonneg A)
    linarith
  have hsquare : (|A| * underflow) * (|A| * underflow) ≤ |A| * (1 / 2 ^ 51) := by
    have hone : |A| * underflow ≤ 1 := hA.trans (by norm_num)
    have hsmall := mul_le_mul_of_nonneg_left (Binary64.underflow_le (k := 51) (by decide))
      (abs_nonneg A)
    have := mul_le_mul hsmall hone (mul_nonneg (abs_nonneg A) underflow_pos.le) (by positivity)
    rwa [mul_one] at this
  have hproduct := mul_le_mul hpart hrest (abs_nonneg _) ((abs_nonneg _).trans hpart)
  have hA0 := abs_nonneg A
  rw [abs_mul]
  refine hproduct.trans ?_
  calc (3 * roundoff * (|w| + |B|) + 2 * (|A| * underflow)) *
        (3 * (|w| + |B|) + 2 * (|A| * underflow))
      = 9 * roundoff * (|w| + |B|) ^ 2 + 6 * (1 + roundoff) * ((|w| + |B|) * (|A| * underflow)) +
          4 * ((|A| * underflow) * (|A| * underflow)) := by ring
    _ ≤ 9 * roundoff * (|w| + |B|) ^ 2 + |A| / 10 ^ 14 := by
      rw [roundoff]
      linarith only [hcross, hsquare, hA0]

/-- **What the formula leaves,** from what the discriminant is off by. -/
theorem RootFormula.four_mul_residual_le (h : RootFormula A B D w X)
    (hA : |A| * underflow ≤ 1 / 2 ^ 51) (hB : |B| * underflow ≤ 1 / 2 ^ 51)
    (hD : |D - (B ^ 2 - 4 * A * C)| ≤ 11 / 10 ^ 13 * max |B ^ 2| |4 * A * C| + 4 * underflow) :
    4 * |A| * |A * X ^ 2 + B * X + C| ≤
      12 / 10 ^ 13 * max |B ^ 2| |4 * A * C| + 5 * underflow + |A| / 10 ^ 14 := by
  have hvalue := h.value_part_le hA hB
  obtain ⟨hD0, hsquare, -, -⟩ := h
  have hunder := underflow_pos
  have hsq : |B ^ 2| ≤ max |B ^ 2| |4 * A * C| := le_max_left _ _
  have hproduct : |4 * A * C| ≤ max |B ^ 2| |4 * A * C| := le_max_right _ _
  have hM0 : 0 ≤ max |B ^ 2| |4 * A * C| := (abs_nonneg _).trans hsq
  have hDM : D ≤ 3 * max |B ^ 2| |4 * A * C| + 4 * underflow := by
    have := le_abs_self (D - (B ^ 2 - 4 * A * C))
    have := abs_sub (B ^ 2) (4 * A * C)
    have := le_abs_self (B ^ 2 - 4 * A * C)
    linarith
  have hg : (|w| + |B|) ^ 2 ≤ 9 * max |B ^ 2| |4 * A * C| + 9 * underflow := by
    have := add_sq_le (a := |w|) (b := |B|)
    have := le_abs_self (w ^ 2 - D)
    rw [sq_abs, sq_abs] at *
    have := le_abs_self (B ^ 2)
    rw [roundoff] at hsquare
    linarith
  have hsplit : 4 * |A| * |A * X ^ 2 + B * X + C| = |(w ^ 2 - D) + (D - (B ^ 2 - 4 * A * C)) +
      (2 * A * X + B - w) * (2 * w + (2 * A * X + B - w))| := by
    rw [← four_mul_residual, abs_mul, abs_mul, abs_of_pos (by norm_num : (0 : ℚ) < 4)]
  have := abs_add_three (w ^ 2 - D) (D - (B ^ 2 - 4 * A * C))
    ((2 * A * X + B - w) * (2 * w + (2 * A * X + B - w)))
  rw [hsplit]
  rw [roundoff] at *
  linarith

/-- **What the formula leaves is small** beside anything that bounds `C`, and `B² / A` with it. -/
theorem RootFormula.residual_le (h : RootFormula A B D w X)
    (hA : |A| * underflow ≤ 1 / 2 ^ 51) (hB : |B| * underflow ≤ 1 / 2 ^ 51)
    (hD : |D - (B ^ 2 - 4 * A * C)| ≤ 11 / 10 ^ 13 * max |B ^ 2| |4 * A * C| + 4 * underflow)
    (h0 : A ≠ 0) {S : ℚ} (hone : 1 ≤ S) (hC : |C| ≤ S)
    (hsquare : B ^ 2 ≤ 3 * 10 ^ 6 * (|A| * S)) (hrange : 1 / 2 ^ 1050 ≤ |A| * S) :
    |A * X ^ 2 + B * X + C| ≤ 1 / 10 ^ 6 * S := by
  have hleft := h.four_mul_residual_le hA hB hD
  have hA0 : 0 < |A| := abs_pos.mpr h0
  have hAS : 0 ≤ |A| * S := mul_nonneg hA0.le (zero_le_one.trans hone)
  have hscale : max |B ^ 2| |4 * A * C| ≤ 3 * 10 ^ 6 * (|A| * S) := by
    rw [abs_of_nonneg (sq_nonneg B), abs_mul, abs_mul, abs_of_pos (by norm_num : (0 : ℚ) < 4)]
    have := mul_le_mul_of_nonneg_left hC hA0.le
    exact max_le hsquare (by linarith)
  have hunder : underflow = 1 / 2 ^ 1050 * (1 / 2 ^ 25) := Binary64.underflow_eq_mul rfl
  have hunit := mul_le_mul_of_nonneg_left hone hA0.le
  generalize (1 : ℚ) / 2 ^ 1050 = least at *
  refine le_of_mul_le_mul_left ?_ hA0
  linarith

/-- A value that comes from a sum without cancellation has the size of `B / A`. -/
theorem RootFormula.sq_le (h : RootFormula A B D w X) (hgap : |w - B| = |w| + |B|)
    (hB : |B| * underflow ≤ 1 / 2 ^ 51) {S : ℚ} (hone : 1 ≤ S) (hX : |B| * |X| ≤ S) :
    B ^ 2 ≤ 4 * (|A| * S) := by
  have hsize : |B| ≤ 3 * (|A| * (|X| + underflow)) := by
    have hparts := abs_sub (2 * A * X) (2 * A * X + B - w)
    have hexact : 2 * A * X - (2 * A * X + B - w) = w - B := by ring
    have htwice : |2 * A * X| = 2 * (|A| * |X|) := by rw [abs_mul, abs_mul, abs_two, mul_assoc]
    have hvalue := h.value
    have hw := abs_nonneg w
    have hproduct : 0 ≤ |A| * (|X| + underflow) :=
      mul_nonneg (abs_nonneg A) (add_nonneg (abs_nonneg X) underflow_pos.le)
    rw [hexact, htwice] at hparts
    rw [roundoff] at hvalue
    linarith
  have hA := abs_nonneg A
  have hX := mul_le_mul_of_nonneg_left hX hA
  have hB := mul_le_mul_of_nonneg_left (hB.trans (by linarith : (1 : ℚ) / 2 ^ 51 ≤ S / 2 ^ 51)) hA
  calc B ^ 2 = |B| * |B| := by rw [← pow_two, sq_abs]
    _ ≤ |B| * (3 * (|A| * (|X| + underflow))) := mul_le_mul_of_nonneg_left hsize (abs_nonneg B)
    _ = 3 * (|A| * (|B| * |X|)) + 3 * (|A| * (|B| * underflow)) := by ring
    _ ≤ 4 * (|A| * S) := by linarith [mul_nonneg hA (zero_le_one.trans hone)]

end

namespace Derivation
variable {a b c : Binary64} {v : Char}

theorem leading_ne_zero (ha : a.isZero = false) (h : (discriminant a b c).isFinite = true) :
    a.toRat ≠ 0 := by
  obtain ⟨-, hproduct, -, -⟩ := relativeDifference_cases (discriminant_eq a b c ▸ h)
  exact Binary64.toRat_ne_zero (Binary64.isFinite_of_mul (Binary64.isFinite_of_mul hproduct).1).2 ha

theorem toRat_two_mul (h : (discriminant a b c).isFinite = true) :
    (2 * a).isFinite = true ∧ (2 * a).toRat = 2 * a.toRat := by
  obtain ⟨-, hproduct, -, -⟩ := relativeDifference_cases (discriminant_eq a b c ▸ h)
  obtain ⟨hfour, -⟩ := Binary64.isFinite_of_mul hproduct
  obtain ⟨-, ha⟩ := Binary64.isFinite_of_mul hfour
  have hvalue : (4 : Binary64).toRat = 4 := Binary64.toRat_lit 4 (by decide)
  have hexact := Binary64.toRat_mul_of_two_pow (k := 2) (by rw [hvalue]; norm_num) hfour
  have hfinite : (2 * a).isFinite = true := by
    have hlt := (4 * a).abs_toRat_lt
    have hpow : (2 : ℚ) ^ 1024 = 2 * 2 ^ 1023 := pow_succ' _ _
    rw [hexact, hvalue, abs_mul, abs_of_pos (by norm_num : (0 : ℚ) < 4), hpow] at hlt
    rw [Binary64.isFinite_two_mul_iff ha]
    have := abs_nonneg a.toRat
    generalize (2 : ℚ) ^ 1023 = bound at *
    linarith only [hlt, this]
  exact ⟨hfinite, Binary64.toRat_two_mul hfinite⟩

theorem rootFormula_of_quotient {n : Binary64} {D w : ℚ}
    (ha : a.isZero = false) (hdelta : (discriminant a b c).isFinite = true)
    (hx : (quotient n (2 * a)).isFinite = true) (hD : 0 ≤ D)
    (hsquare : |w ^ 2 - D| ≤ D * (4 * roundoff)) (hrange : |w| * underflow ≤ 1 / 2 ^ 51)
    (hn : n.isFinite = true → |n.toRat - (w - b.toRat)| ≤ |w - b.toRat| * roundoff) :
    RootFormula a.toRat b.toRat D w (quotient n (2 * a)).toRat := by
  obtain ⟨hfinite, hexact⟩ := toRat_two_mul hdelta
  have hne : (2 * a).toRat ≠ 0 := by
    rw [hexact]
    exact mul_ne_zero two_ne_zero (leading_ne_zero ha hdelta)
  obtain ⟨hnum, hquotient⟩ := quotient_mul_sub_le hfinite hne hx
  have hn := hn hnum
  rw [hexact, abs_mul, abs_two] at hquotient
  refine ⟨hD, hsquare, hrange, ?_⟩
  have hsize := abs_sub_abs_le_abs_sub n.toRat (w - b.toRat)
  have htri := abs_add_le ((quotient n (2 * a)).toRat * (2 * a.toRat) - n.toRat)
    (n.toRat - (w - b.toRat))
  have hparts : 2 * a.toRat * (quotient n (2 * a)).toRat + b.toRat - w =
      ((quotient n (2 * a)).toRat * (2 * a.toRat) - n.toRat) + (n.toRat - (w - b.toRat)) := by ring
  rw [hparts]
  have hgap := abs_nonneg (w - b.toRat)
  rw [roundoff] at *
  linarith

/-- What two roots come from: a positive discriminant and finite numbers all the way. -/
theorem roots_of_quadratic {x₁ x₂ : Binary64} (h : (quadratic a b c v).solution = .values [x₁, x₂]) :
    0 < (discriminant a b c).toRat ∧ (-b).isFinite = true ∧ (discriminant a b c).sqrt.isFinite = true ∧
      x₁ = quotient (-b + (discriminant a b c).sqrt) (2 * a) ∧
      x₂ = quotient (-b - (discriminant a b c).sqrt) (2 * a) := by
  obtain ⟨-, -, hfinite, ⟨-, hxs⟩ | ⟨hpos, hxs⟩⟩ := values_of_quadratic h
  · cases hxs
  cases hxs
  have hplus := hfinite (quotient (-b + (discriminant a b c).sqrt) (2 * a)) (by simp)
  obtain ⟨hb, hroot⟩ := Binary64.isFinite_of_add (isFinite_of_quotient hplus)
  exact ⟨hpos, hb, hroot, rfl, rfl⟩

/-- Two roots come from the formula with one root of the discriminant, taken with both signs. -/
theorem rootFormula_of_roots {x₁ x₂ : Binary64}
    (h : (quadratic a b c v).solution = .values [x₁, x₂]) :
    0 < (discriminant a b c).toRat ∧ ∃ w, 0 ≤ w ∧
      RootFormula a.toRat b.toRat (discriminant a b c).toRat w x₁.toRat ∧
      RootFormula a.toRat b.toRat (discriminant a b c).toRat (-w) x₂.toRat := by
  obtain ⟨ha, hdelta, hfinite, -⟩ := values_of_quadratic h
  obtain ⟨hpos, hb, hroot, rfl, rfl⟩ := roots_of_quadratic h
  have hplus := hfinite _ List.mem_cons_self
  have hminus := hfinite _ (List.mem_cons_of_mem _ List.mem_cons_self)
  obtain ⟨hroot0, hsquare⟩ := Binary64.sqrt_sq_sub_le hdelta hpos hroot
  have hrange := (discriminant a b c).sqrt.abs_toRat_mul_underflow_le
  refine ⟨hpos, _, hroot0, ?_, ?_⟩
  · refine rootFormula_of_quotient ha hdelta hplus hpos.le hsquare hrange fun hn => ?_
    have herror := Binary64.toRat_add_sub_le hb hroot hn
    rwa [Binary64.toRat_neg, neg_add_eq_sub] at herror
  · refine rootFormula_of_quotient ha hdelta hminus hpos.le (by rwa [neg_sq]) (by rwa [abs_neg])
      fun hn => ?_
    have herror := Binary64.toRat_sub_sub_le hb hroot hn
    rwa [Binary64.toRat_neg, neg_sub_comm] at herror

/-- **Every value of a quadratic comes from the formula,** and one of them from a sum without
cancellation. -/
theorem rootFormula_of_values {xs : List Binary64} (h : (quadratic a b c v).solution = .values xs) :
    (∀ x ∈ xs, ∃ w, RootFormula a.toRat b.toRat (discriminant a b c).toRat w x.toRat) ∧
      ∃ x ∈ xs, ∃ w, RootFormula a.toRat b.toRat (discriminant a b c).toRat w x.toRat ∧
        |w - b.toRat| = |w| + |b.toRat| := by
  obtain ⟨ha, hdelta, hfinite, ⟨hzero, rfl⟩ | ⟨-, rfl⟩⟩ := values_of_quadratic h
  · have hformula : RootFormula a.toRat b.toRat (discriminant a b c).toRat 0
        (quotient (-b) (2 * a)).toRat := by
      refine rootFormula_of_quotient ha hdelta (hfinite _ (by simp)) hzero.ge ?_ ?_ fun hn => ?_
      · rw [hzero]; norm_num
      · norm_num
      · rw [Binary64.toRat_neg, zero_sub, sub_self, abs_zero]
        exact mul_nonneg (abs_nonneg _) (by norm_num [roundoff])
    refine ⟨fun x hx => ⟨0, by rwa [List.mem_singleton.mp hx]⟩, _, by simp, 0, hformula, ?_⟩
    rw [zero_sub, abs_neg, abs_zero, zero_add]
  · obtain ⟨-, w, hw, hformula₁, hformula₂⟩ := rootFormula_of_roots h
    constructor
    · intro x hx
      rcases List.mem_pair.mp hx with rfl | rfl
      · exact ⟨_, hformula₁⟩
      · exact ⟨_, hformula₂⟩
    -- The branch whose sign is that of `-b`.
    · rcases le_total b.toRat 0 with hneg | hneg
      · refine ⟨_, by simp, _, hformula₁, ?_⟩
        rw [abs_of_nonneg hw, abs_of_nonpos hneg, abs_of_nonneg (by linarith), sub_eq_add_neg]
      · refine ⟨_, by simp, _, hformula₂, ?_⟩
        rw [abs_neg, abs_of_nonneg hw, abs_of_nonneg hneg, abs_of_nonpos (by linarith)]
        ring

end Derivation

/-- The terms of a quadratic at a value. -/
def quadraticTerms (a b c x : Binary64) : List ℚ :=
  [a.toRat * x.toRat ^ 2, b.toRat * x.toRat, c.toRat]

/-- **The roots of a quadratic, put back.** What is left is little beside the greatest term, one, or
the three-millionth part of `b² / a`. The root farther from zero, and a single one, needs no
`b² / a`. Only where `a` is far below the normal range does a bound of its own take the place of
one. -/
theorem quadratic_residual {a b c x : Binary64} {v : Char} {xs : List Binary64}
    (h : (Derivation.quadratic a b c v).solution = .values xs) (hx : x ∈ xs) :
    residual (quadraticTerms a b c x) ≤ 1 / 10 ^ 6 *
      max (termScale (quadraticTerms a b c x))
        (max (b.toRat ^ 2 / (3 * 10 ^ 6)) (1 / 2 ^ 1050) / |a.toRat|) ∧
    ((∀ y ∈ xs, |y.toRat| ≤ |x.toRat|) → residual (quadraticTerms a b c x) ≤ 1 / 10 ^ 6 *
      max (termScale (quadraticTerms a b c x)) (1 / 2 ^ 1050 / |a.toRat|)) := by
  obtain ⟨hall, y, hy, u, hformula', hgap⟩ := Derivation.rootFormula_of_values h
  obtain ⟨w, hformula⟩ := hall x hx
  obtain ⟨ha, hdelta, -, -⟩ := Derivation.values_of_quadratic h
  obtain ⟨hsquare, hproduct⟩ := discriminant_rounds hdelta
  have hD := relativeDifference_sub_le hsquare hproduct hdelta
  rw [← discriminant_eq] at hD
  have hA := a.abs_toRat_mul_underflow_le
  have hB := b.abs_toRat_mul_underflow_le
  have h0 := Derivation.leading_ne_zero ha hdelta
  have hsum : residual (quadraticTerms a b c x) =
      |a.toRat * x.toRat ^ 2 + b.toRat * x.toRat + c.toRat| := by
    simp only [residual, quadraticTerms, List.sum_cons, List.sum_nil, add_zero, add_assoc]
  have hone := one_le_termScale (quadraticTerms a b c x)
  have hC : |c.toRat| ≤ termScale (quadraticTerms a b c x) :=
    abs_le_termScale (by simp [quadraticTerms])
  have hBX : |b.toRat * x.toRat| ≤ termScale (quadraticTerms a b c x) :=
    abs_le_termScale (by simp [quadraticTerms])
  rw [abs_mul] at hBX
  rw [hsum]
  generalize termScale (quadraticTerms a b c x) = scale at *
  have habs : 0 < |a.toRat| := abs_pos.mpr h0
  constructor
  · have hle := le_mul_max_div scale (max (b.toRat ^ 2 / (3 * 10 ^ 6)) (1 / 2 ^ 1050)) habs
    have hscale := le_max_left scale
      (max (b.toRat ^ 2 / (3 * 10 ^ 6)) (1 / 2 ^ 1050) / |a.toRat|)
    refine hformula.residual_le hA hB hD h0 (hone.trans hscale) (hC.trans hscale) ?_ ?_
    · exact (div_le_iff₀' (by norm_num)).mp ((le_max_left _ _).trans hle)
    · exact (le_max_right _ _).trans hle
  · intro hgreatest
    have hle := le_mul_max_div scale (1 / 2 ^ 1050) habs
    have hscale := le_max_left scale (1 / 2 ^ 1050 / |a.toRat|)
    have hroot : |b.toRat| * |y.toRat| ≤ max scale (1 / 2 ^ 1050 / |a.toRat|) :=
      (mul_le_mul_of_nonneg_left (hgreatest y hy) (abs_nonneg _)).trans (hBX.trans hscale)
    have hfour := hformula'.sq_le hgap hB (hone.trans hscale) hroot
    refine hformula.residual_le hA hB hD h0 (hone.trans hscale) (hC.trans hscale)
      (hfour.trans ?_) hle
    exact mul_le_mul_of_nonneg_right (by norm_num)
      (mul_nonneg habs.le (zero_le_one.trans (hone.trans hscale)))

/-- The two roots of `x² - 3x + 2 = 0`. -/
theorem quadratic_residual_two_roots :
    residual (quadraticTerms 1 (-3) 2 1) ≤ 1 / 10 ^ 6 *
        max (termScale (quadraticTerms 1 (-3) 2 1))
          (max ((-3 : Binary64).toRat ^ 2 / (3 * 10 ^ 6)) (1 / 2 ^ 1050) /
            |(1 : Binary64).toRat|) ∧
      residual (quadraticTerms 1 (-3) 2 2) ≤ 1 / 10 ^ 6 *
        max (termScale (quadraticTerms 1 (-3) 2 2)) (1 / 2 ^ 1050 / |(1 : Binary64).toRat|) := by
  have h : (Derivation.quadratic 1 (-3) 2 'x').solution = .values [2, 1] := by decide +kernel
  refine ⟨(quadratic_residual h (by simp)).1, (quadratic_residual h (by simp)).2 fun y hy => ?_⟩
  rcases List.mem_pair.mp hy with h | h <;> rw [h]
  rw [Binary64.toRat_one, Binary64.toRat_lit 2 (by decide)]
  norm_num

/-- Where `b²` dominates, the nearer root is lost: `x² + 100000000x + 1 = 0` has a root next to
`-1e-8`, and what is given is `-2⁻²⁷`, which leaves a quarter. -/
theorem quadratic_residual_cancellation : ∃ x₁ x₂ : Binary64,
    x₁ = .ofBits 0xbe40000000000000 ∧
      (Derivation.quadratic 1 100000000 1 'x').solution = .values [x₁, x₂] ∧
      ¬ residual (quadraticTerms 1 100000000 1 x₁) ≤
        1 / 10 ^ 6 * termScale (quadraticTerms 1 100000000 1 x₁) := by
  refine ⟨_, .ofBits 0xc197d78400000000, rfl, by decide +kernel, ?_⟩
  have hone := Binary64.toRat_one
  have hb : (100000000 : Binary64).toRat = 100000000 := Binary64.toRat_lit _ (by decide)
  have hx : (Binary64.ofBits 0xbe40000000000000).toRat = -1 / 2 ^ 27 := by
    have hpow : (134217728 : Binary64).toRat = 2 ^ 27 := by
      rw [Binary64.toRat_lit 134217728 (by decide)]
      norm_num
    have hproduct : 134217728 * Binary64.ofBits 0xbe40000000000000 = -1 := by decide +kernel
    have hexact := Binary64.toRat_mul_of_two_pow hpow (y := .ofBits 0xbe40000000000000)
      (by rw [hproduct]; decide +kernel)
    rw [hproduct, Binary64.toRat_neg, hone, hpow] at hexact
    rw [hexact, mul_div_cancel_left₀ _ (by positivity)]
  simp only [residual, termScale, quadraticTerms, hone, hb, hx, List.sum_cons, List.sum_nil,
    List.foldr_cons, List.foldr_nil]
  norm_num [abs_of_pos, abs_of_neg]

end WorkedEquations
