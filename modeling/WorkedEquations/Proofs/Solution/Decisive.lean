/-
The discriminant and the determinant beside the exact ones.

Both are a difference of two rounded products that counts as zero when it is
small beside them. What such a difference says of the exact one does not depend
on where the products come from.

It never has a sign that the exact difference has not (`relativeDifference_pos`,
`relativeDifference_neg`), and `relativeDifference_sub_le` tells how far the two
are apart. So no real root is denied and none invented (`quadratic_root_count`),
and what is taken for zero is small beside the greater product, or both products
are below the normal range (`zero_branch_negligible`).
-/
import WorkedEquations.Proofs.Binary64.Value
import WorkedEquations.Proofs.Solution.Endings

namespace WorkedEquations

open Binary64 (roundoff underflow underflow_pos leastNormal)

/-! ## Differences that count as zero when they are small -/

/-- A difference, zero if it is small beside its parts. -/
def relativeDifference (x y : Binary64) : Binary64 := snapToZero (x - y) (x.abs.greater y.abs)

theorem discriminant_eq (a b c : Binary64) :
    discriminant a b c = relativeDifference (b * b) (4 * a * c) := rfl

theorem determinant_eq (r s : Row) :
    determinant r s = relativeDifference (r.a * s.b) (s.a * r.b) := rfl

theorem zeroTolerance_bounds : zeroTolerance.isFinite = true ∧
    99 / 10 ^ 14 ≤ zeroTolerance.toRat ∧ zeroTolerance.toRat ≤ 101 / 10 ^ 14 := by
  have h : zeroTolerance.Rounds ((1 : Nat) * 10 ^ (-12 : Int)) :=
    (Binary64.ofDecimal_isRounding false 1 (-12)).rounds (by positivity)
  have hexact : ((1 : Nat) : ℚ) * 10 ^ (-12 : Int) = 1 / 10 ^ 12 := by norm_num
  rw [hexact] at h
  have hfinite : zeroTolerance.isFinite = true := by
    refine h.isFinite ?_
    have := Magnitude.one_lt_overflow
    rw [abs_of_pos (by positivity)]
    norm_num
    linarith
  have herror := abs_le.mp (h.abs_sub_le hfinite)
  have htiny := Binary64.underflow_le (k := 60) (by decide)
  rw [abs_of_pos (by positivity), roundoff] at herror
  refine ⟨hfinite, ?_, ?_⟩ <;> norm_num at herror htiny ⊢ <;> linarith

section
variable {x y : Binary64}

theorem tolerance_bounds (hx : x.isFinite = true) (hy : y.isFinite = true) :
    (zeroTolerance * x.abs.greater y.abs).isFinite = true ∧
      0 ≤ (zeroTolerance * x.abs.greater y.abs).toRat ∧
      98 / 10 ^ 14 * max |x.toRat| |y.toRat| - underflow ≤
        (zeroTolerance * x.abs.greater y.abs).toRat ∧
      (zeroTolerance * x.abs.greater y.abs).toRat ≤
        102 / 10 ^ 14 * max |x.toRat| |y.toRat| + underflow := by
  obtain ⟨htol, hlow, hhigh⟩ := zeroTolerance_bounds
  obtain ⟨hscale, hvalue⟩ := Binary64.greater_abs_toRat hx hy
  have h := Binary64.rounds_mul htol hscale
  have hmax : max |x.toRat| |y.toRat| < Magnitude.overflow :=
    max_lt x.abs_toRat_lt_overflow y.abs_toRat_lt_overflow
  have h0 : 0 ≤ max |x.toRat| |y.toRat| := le_max_of_le_left (abs_nonneg _)
  rw [hvalue] at h
  generalize max |x.toRat| |y.toRat| = scale at *
  have hproduct : 0 ≤ zeroTolerance.toRat * scale := mul_nonneg (by linarith) h0
  have hone : zeroTolerance.toRat ≤ 1 := by linarith
  have hfinite := h.isFinite (by
    rw [abs_of_nonneg hproduct]
    exact (mul_le_of_le_one_left h0 hone).trans_lt hmax)
  have hsign := (Binary64.rounds_zero false).le h rfl hfinite hproduct
  have herror := abs_le.mp (h.abs_sub_le hfinite)
  rw [abs_of_nonneg hproduct, roundoff] at herror
  have hlow := mul_le_mul_of_nonneg_right hlow h0
  have hhigh := mul_le_mul_of_nonneg_right hhigh h0
  rw [Binary64.toRat_signedZero] at hsign
  refine ⟨hfinite, hsign, ?_, ?_⟩
  · linarith only [herror.1, hlow, hhigh, h0]
  · linarith only [herror.2, hhigh, h0]

/-- What a finite difference comes from: finite parts, and one of two cases. -/
theorem relativeDifference_cases (h : (relativeDifference x y).isFinite = true) :
    x.isFinite = true ∧ y.isFinite = true ∧ (x - y).isFinite = true ∧
      ((relativeDifference x y).toRat = 0 ∧
          |(x - y).toRat| ≤ (zeroTolerance * x.abs.greater y.abs).toRat ∨
        relativeDifference x y = x - y ∧
          (zeroTolerance * x.abs.greater y.abs).toRat < |(x - y).toRat|) := by
  unfold relativeDifference snapToZero at h ⊢
  split
  · next hsmall =>
    rw [Bool.and_eq_true, decide_eq_true_eq] at hsmall
    obtain ⟨hscale, hle⟩ := hsmall
    have hnan : (x - y).isNaN = false := by
      cases hxy : x - y with
      | nan => rw [hxy] at hle; cases hle
      | infinite s => rfl
      | finite s m => rfl
    have hxnan : x.isNaN = false := by
      cases x with
      | nan => cases y <;> cases hnan
      | infinite s => rfl
      | finite s m => rfl
    have hynan : y.isNaN = false := by
      cases y with
      | nan => cases x <;> cases hnan
      | infinite s => rfl
      | finite s m => rfl
    obtain ⟨hx, hy⟩ := Binary64.isFinite_of_greater hxnan hynan hscale
    have htol := (tolerance_bounds hx hy).1
    have hsub := Binary64.isFinite_of_abs_le hle htol
    have habs : (x - y).abs.isFinite = true := by
      obtain ⟨s, m, hxy⟩ := Binary64.isFinite_iff.mp hsub
      rw [hxy]
      rfl
    rw [Binary64.le_iff_toRat habs htol, Binary64.toRat_abs] at hle
    exact ⟨hx, hy, hsub, .inl ⟨Binary64.toRat_zero, hle⟩⟩
  · next hlarge =>
    rw [if_neg hlarge] at h
    obtain ⟨hx, hy⟩ := Binary64.isFinite_of_sub h
    have htol := (tolerance_bounds hx hy).1
    have hscale := (Binary64.greater_abs_toRat hx hy).1
    have habs : (x - y).abs.isFinite = true := by
      obtain ⟨s, m, hxy⟩ := Binary64.isFinite_iff.mp h
      rw [hxy]
      rfl
    rw [hscale, Bool.true_and, decide_eq_true_eq, Binary64.le_iff_toRat habs htol,
      Binary64.toRat_abs, not_le] at hlarge
    exact ⟨hx, hy, h, .inr ⟨rfl, hlarge⟩⟩

variable {p q : ℚ} (hp : x.Rounds p) (hq : y.Rounds q)
  (h : (relativeDifference x y).isFinite = true)
include hp hq h

/-- **No sign is made up,** upward. -/
theorem relativeDifference_pos (hpos : 0 < (relativeDifference x y).toRat) : q < p := by
  obtain ⟨hx, hy, hsub, hcase⟩ := relativeDifference_cases h
  by_contra hle
  have hxy := hp.le hq hx hy (not_lt.mp hle)
  have hdiff := (Binary64.rounds_sub hx hy).le (Binary64.rounds_zero false) hsub rfl (by linarith)
  rw [Binary64.toRat_signedZero] at hdiff
  rcases hcase with ⟨hcase, -⟩ | ⟨hcase, -⟩ <;> rw [hcase] at hpos <;> linarith

/-- **No sign is made up,** downward. -/
theorem relativeDifference_neg (hneg : (relativeDifference x y).toRat < 0) : p < q := by
  obtain ⟨hx, hy, hsub, hcase⟩ := relativeDifference_cases h
  by_contra hle
  have hxy := hq.le hp hy hx (not_lt.mp hle)
  have hdiff := (Binary64.rounds_zero false).le (Binary64.rounds_sub hx hy) rfl hsub (by linarith)
  rw [Binary64.toRat_signedZero] at hdiff
  rcases hcase with ⟨hcase, -⟩ | ⟨hcase, -⟩ <;> rw [hcase] at hneg <;> linarith

/-- **The error of the difference:** what rounding the products and the difference moved it by, and
what was taken for zero. -/
theorem relativeDifference_sub_le : |(relativeDifference x y).toRat - (p - q)| ≤
    11 / 10 ^ 13 * max |p| |q| + 4 * underflow := by
  obtain ⟨hx, hy, hsub, hcase⟩ := relativeDifference_cases h
  obtain ⟨-, htol0, -, htol⟩ := tolerance_bounds hx hy
  have hxp := abs_le.mp (hp.abs_sub_le hx)
  have hyq := abs_le.mp (hq.abs_sub_le hy)
  have hv := abs_le.mp (Binary64.toRat_sub_sub_le hx hy hsub)
  have hsnap : |(relativeDifference x y).toRat - (x - y).toRat| ≤
      (zeroTolerance * x.abs.greater y.abs).toRat := by
    rcases hcase with ⟨hcase, hle⟩ | ⟨hcase, -⟩
    · rwa [hcase, zero_sub, abs_neg]
    · rw [hcase, sub_self, abs_zero]
      exact htol0
  have hsnap := abs_le.mp hsnap
  have hunder := underflow_pos
  have hpm : |p| ≤ max |p| |q| := le_max_left _ _
  have hqm : |q| ≤ max |p| |q| := le_max_right _ _
  have hscale : max |x.toRat| |y.toRat| ≤ max |p| |q| * (1 + roundoff) + underflow := by
    have hx' := (abs_sub_abs_le_abs_sub x.toRat p).trans (hp.abs_sub_le hx)
    have hy' := (abs_sub_abs_le_abs_sub y.toRat q).trans (hq.abs_sub_le hy)
    rw [roundoff] at hx' hy' ⊢
    exact max_le (by linarith only [hx', hpm]) (by linarith only [hy', hqm])
  have hdiff : |x.toRat - y.toRat| ≤ 2 * max |x.toRat| |y.toRat| := by
    have := abs_sub x.toRat y.toRat
    have := le_max_left |x.toRat| |y.toRat|
    have := le_max_right |x.toRat| |y.toRat|
    linarith
  generalize max |x.toRat| |y.toRat| = scale at *
  generalize max |p| |q| = greatest at *
  rw [roundoff] at *
  rw [abs_le]
  constructor <;> linarith

/-- A difference that is not zero was not taken for zero, so it outweighs the tolerance. -/
theorem relativeDifference_ne_zero (hne : (relativeDifference x y).toRat ≠ 0) :
    relativeDifference x y = x - y ∧ max |p| |q| ≤ 2 * 10 ^ 12 * |(relativeDifference x y).toRat| := by
  obtain ⟨hx, hy, hsub, ⟨hcase, -⟩ | ⟨hcase, hlarge⟩⟩ := relativeDifference_cases h
  · exact absurd hcase hne
  refine ⟨hcase, ?_⟩
  obtain ⟨-, -, htol, -⟩ := tolerance_bounds hx hy
  have hleast := Binary64.two_mul_underflow_le hne
  rw [← hcase] at hlarge
  have hx' := (abs_sub_abs_le_abs_sub p x.toRat).trans_eq (abs_sub_comm _ _) |>.trans (hp.abs_sub_le hx)
  have hy' := (abs_sub_abs_le_abs_sub q y.toRat).trans_eq (abs_sub_comm _ _) |>.trans (hq.abs_sub_le hy)
  have hxs := le_max_left |x.toRat| |y.toRat|
  have hys := le_max_right |x.toRat| |y.toRat|
  have hunder := underflow_pos
  generalize max |x.toRat| |y.toRat| = scale at *
  rw [roundoff] at hx' hy'
  exact max_le (by linarith only [hx', hxs, htol, hlarge, hleast, hunder])
    (by linarith only [hy', hys, htol, hlarge, hleast, hunder])

/-- **The exact difference is not much greater** than one that was not taken for zero: what the
products lost below the normal range is the difference itself at most. -/
theorem abs_sub_le_relativeDifference (hne : (relativeDifference x y).toRat ≠ 0) :
    |p - q| ≤ 21 / 10 * |(relativeDifference x y).toRat| := by
  obtain ⟨hcase, hdecided⟩ := relativeDifference_ne_zero hp hq h hne
  obtain ⟨hx, hy, hsub, -⟩ := relativeDifference_cases h
  have hleast := Binary64.two_mul_underflow_le hne
  have hround := Binary64.toRat_sub_sub_le hx hy hsub
  rw [hcase] at hdecided hleast ⊢
  have hx' := hp.abs_sub_le hx
  have hy' := hq.abs_sub_le hy
  rw [abs_sub_comm] at hx'
  have hpm : |p| ≤ max |p| |q| := le_max_left _ _
  have hqm : |q| ≤ max |p| |q| := le_max_right _ _
  have hsize := abs_sub_abs_le_abs_sub (x.toRat - y.toRat) (x - y).toRat
  rw [abs_sub_comm] at hround
  have h0 := abs_nonneg (x - y).toRat
  have hparts : p - q = (p - x.toRat) + (x.toRat - y.toRat) + (y.toRat - q) := by ring
  have htri := abs_add_three (p - x.toRat) (x.toRat - y.toRat) (y.toRat - q)
  rw [hparts]
  generalize max |p| |q| = greatest at *
  rw [roundoff] at *
  linarith

end

/-! ## What decides, from the coefficients -/

/-- The products of a discriminant are exact products rounded once: the factor four is exact. -/
theorem discriminant_rounds {a b c : Binary64} (h : (discriminant a b c).isFinite = true) :
    (b * b).Rounds (b.toRat ^ 2) ∧ (4 * a * c).Rounds (4 * a.toRat * c.toRat) := by
  rw [discriminant_eq] at h
  obtain ⟨hsquare, hproduct, -, -⟩ := relativeDifference_cases h
  obtain ⟨hb, -⟩ := Binary64.isFinite_of_mul hsquare
  obtain ⟨h4a, hc⟩ := Binary64.isFinite_of_mul hproduct
  have hfour : (4 : Binary64).toRat = 4 := Binary64.toRat_lit 4 (by decide)
  constructor
  · rw [pow_two]
    exact Binary64.rounds_mul hb hb
  · have := Binary64.rounds_mul h4a hc
    rwa [Binary64.toRat_mul_of_two_pow (k := 2) (by rw [hfour]; norm_num) h4a, hfour] at this

theorem determinant_rounds {r s : Row} (h : (determinant r s).isFinite = true) :
    (r.a * s.b).Rounds (r.a.toRat * s.b.toRat) ∧ (s.a * r.b).Rounds (s.a.toRat * r.b.toRat) := by
  rw [determinant_eq] at h
  obtain ⟨hleft, hright, -, -⟩ := relativeDifference_cases h
  obtain ⟨hra, hsb⟩ := Binary64.isFinite_of_mul hleft
  obtain ⟨hsa, hrb⟩ := Binary64.isFinite_of_mul hright
  exact ⟨Binary64.rounds_mul hra hsb, Binary64.rounds_mul hsa hrb⟩

theorem isFinite_of_isZero_eq {x : Binary64} (h : x.isZero = true) : x.isFinite = true := by
  obtain ⟨s, rfl⟩ := Binary64.isZero_iff.mp h
  rfl

/-! ## How many real roots -/

namespace Derivation
variable {a b c : Binary64} {v : Char}

theorem discriminant_of_noRealSolution
    (h : (quadratic a b c v).solution = .degenerate .noRealSolution) :
    (discriminant a b c).isFinite = true ∧ discriminant a b c < 0 := by
  have hend := quadratic_ending a b c v
  generalize quadratic a b c v = d at h hend
  cases hend with
  | noRealSolution _ _ hdelta hfinite hneg => exact hdelta ▸ ⟨hfinite, hneg⟩
  | notQuadratic | repeatedRoot | roots | notFinite => cases h

theorem values_of_quadratic {xs : List Binary64} (h : (quadratic a b c v).solution = .values xs) :
    a.isZero = false ∧ (discriminant a b c).isFinite = true ∧ (∀ x ∈ xs, x.isFinite = true) ∧
      ((discriminant a b c).toRat = 0 ∧ xs = [quotient (-b) (2 * a)] ∨
        0 < (discriminant a b c).toRat ∧
          xs = [quotient (-b + (discriminant a b c).sqrt) (2 * a),
            quotient (-b - (discriminant a b c).sqrt) (2 * a)]) := by
  have hend := quadratic_ending a b c v
  generalize quadratic a b c v = d at h hend
  cases hend with
  | repeatedRoot _ hx ha hzero hvalue =>
    cases h
    have hfinite := isFinite_of_isZero_eq hzero
    refine ⟨ha, hfinite, by simpa using hx.1, .inl ⟨?_, by rw [hvalue]⟩⟩
    exact (Binary64.isZero_iff_toRat hfinite).mp hzero
  | roots _ hx₁ hx₂ ha hdelta hfinite hneg hzero hroot hvalue₁ hvalue₂ =>
    cases h
    subst hdelta hroot
    refine ⟨ha, hfinite, by simpa using ⟨hx₁.1, hx₂.1⟩, .inr ⟨?_, by rw [← hvalue₁, ← hvalue₂]⟩⟩
    exact Binary64.toRat_pos hfinite hneg hzero
  | notQuadratic | noRealSolution | notFinite => cases h

end Derivation

/-- **No real root is denied and none is made up.** Where there is said to be none, the exact
discriminant is negative, and where two are given, it is positive. A coefficient that is not finite
leads to neither outcome. -/
theorem quadratic_root_count (a b c : Binary64) (v : Char) :
    ((Derivation.quadratic a b c v).solution = .degenerate .noRealSolution →
      b.toRat ^ 2 < 4 * a.toRat * c.toRat) ∧
    ∀ x₁ x₂, (Derivation.quadratic a b c v).solution = .values [x₁, x₂] →
      4 * a.toRat * c.toRat < b.toRat ^ 2 := by
  constructor
  · intro h
    obtain ⟨hfinite, hneg⟩ := Derivation.discriminant_of_noRealSolution h
    obtain ⟨hsquare, hproduct⟩ := discriminant_rounds hfinite
    rw [Binary64.lt_zero_iff_toRat hfinite] at hneg
    exact relativeDifference_neg hsquare hproduct hfinite hneg
  · intro x₁ x₂ h
    obtain ⟨-, hfinite, -, ⟨-, hxs⟩ | ⟨hpos, -⟩⟩ := Derivation.values_of_quadratic h
    · cases hxs
    · obtain ⟨hsquare, hproduct⟩ := discriminant_rounds hfinite
      exact relativeDifference_pos hsquare hproduct hfinite hpos

/-- Two parts in a million million below and above a double root. -/
theorem quadratic_root_count_near_double :
    ∃ below above : Binary64, below = .ofBits 0x3fffffffffffe000 ∧
      above = .ofBits 0x4000000000001000 ∧
      below.toRat ^ 2 < 4 * (1 : Binary64).toRat * (1 : Binary64).toRat ∧
      4 * (1 : Binary64).toRat * (1 : Binary64).toRat < above.toRat ^ 2 := by
  refine ⟨_, _, rfl, rfl, (quadratic_root_count _ _ _ 'x').1 (by decide +kernel), ?_⟩
  exact (quadratic_root_count _ _ _ 'x').2 (.ofBits 0xbfeffffd2bec5330) (.ofBits 0xbff000016a09f668)
    (by decide +kernel)

/-! ## What is taken for zero -/

/-- Two exact products whose difference is negligible: beside the greater of them, or beside the
least normal number if neither reaches it. -/
structure Negligible (p q : ℚ) : Prop where
  relative : leastNormal ≤ max |p| |q| → |p - q| ≤ 2 / 10 ^ 12 * max |p| |q|
  below : max |p| |q| < leastNormal → |p - q| ≤ 2 / 10 ^ 12 * leastNormal

theorem negligible_of_isZero {x y : Binary64} {p q : ℚ} (hp : x.Rounds p) (hq : y.Rounds q)
    (h : (relativeDifference x y).isZero = true) : Negligible p q := by
  have hfinite := isFinite_of_isZero_eq h
  have herror := relativeDifference_sub_le hp hq hfinite
  rw [(Binary64.isZero_iff_toRat hfinite).mp h, zero_sub, abs_neg, Binary64.underflow_eq] at herror
  have h0 : 0 < leastNormal := by
    unfold leastNormal
    positivity
  rw [roundoff] at herror
  exact ⟨fun hle => by linarith, fun hlt => by linarith⟩

namespace Derivation
variable {a b c x : Binary64} {v : Char} {r s : Row}

theorem discriminant_of_repeatedRoot (h : (quadratic a b c v).solution = .values [x]) :
    (discriminant a b c).isZero = true := by
  obtain ⟨-, hfinite, -, ⟨hzero, -⟩ | ⟨-, hxs⟩⟩ := values_of_quadratic h
  · exact (Binary64.isZero_iff_toRat hfinite).mpr hzero
  · cases hxs

theorem determinant_of_inconsistentOrDependent
    (h : (system r s).solution = .degenerate .inconsistentOrDependent) :
    (determinant r s).isZero = true := by
  have hend := system_ending 'x' r s
  generalize system r s = d at h hend
  cases hend with
  | zeroDeterminant _ hzero => exact hzero
  | ratios | notFinite => cases h

end Derivation

/-- **The zero branch.** One root is given only where the exact discriminant is negligible, and a
system is called singular only where its exact determinant is. -/
theorem zero_branch_negligible (a b c : Binary64) (v : Char) (x : Binary64) (r s : Row) :
    ((Derivation.quadratic a b c v).solution = .values [x] →
      Negligible (b.toRat ^ 2) (4 * a.toRat * c.toRat)) ∧
    ((Derivation.system r s).solution = .degenerate .inconsistentOrDependent →
      Negligible (r.a.toRat * s.b.toRat) (s.a.toRat * r.b.toRat)) := by
  constructor
  · intro h
    have hzero := Derivation.discriminant_of_repeatedRoot h
    obtain ⟨hsquare, hproduct⟩ := discriminant_rounds (isFinite_of_isZero_eq hzero)
    exact negligible_of_isZero hsquare hproduct hzero
  · intro h
    have hzero := Derivation.determinant_of_inconsistentOrDependent h
    obtain ⟨hleft, hright⟩ := determinant_rounds (isFinite_of_isZero_eq hzero)
    exact negligible_of_isZero hleft hright hzero

/-- A square, and rows of which one is twice the other but for its constant. -/
theorem zero_branch_negligible_square :
    Negligible ((2 : Binary64).toRat ^ 2) (4 * (1 : Binary64).toRat * (1 : Binary64).toRat) ∧
      Negligible ((2 : Binary64).toRat * (6 : Binary64).toRat)
        ((4 : Binary64).toRat * (3 : Binary64).toRat) := by
  have h := zero_branch_negligible 1 2 1 'x' (-1) ⟨2, 3, 7⟩ ⟨4, 6, 9⟩
  exact ⟨h.1 (by decide +kernel), h.2 (by decide +kernel)⟩

/-- Below the normal range products vanish that are not negligible beside each other: the equation
`x² + 1e-200·x = 0` has two roots and is given one, and two rows that each fix one unknown are called
singular. -/
theorem zero_branch_underflow :
    ∃ b : Binary64, b = .ofDecimal false 1 (-200) ∧
      (Derivation.quadratic 1 b 0 'x').solution = .values [.ofDecimal true 5 (-201)] ∧
      ¬ |b.toRat ^ 2 - 4 * (1 : Binary64).toRat * (0 : Binary64).toRat| ≤
        2 / 10 ^ 12 * max (b.toRat ^ 2) |4 * (1 : Binary64).toRat * (0 : Binary64).toRat| ∧
      (Derivation.system ⟨b, 0, b⟩ ⟨0, b, b⟩).solution = .degenerate .inconsistentOrDependent ∧
      ¬ |b.toRat * b.toRat - (0 : Binary64).toRat * (0 : Binary64).toRat| ≤
        2 / 10 ^ 12 * max |b.toRat * b.toRat| |(0 : Binary64).toRat * (0 : Binary64).toRat| := by
  have hfinite : (Binary64.ofDecimal false 1 (-200)).isFinite = true := by decide +kernel
  have hne : (Binary64.ofDecimal false 1 (-200)).toRat ≠ 0 := by
    rw [ne_eq, ← Binary64.isZero_iff_toRat hfinite]
    decide +kernel
  refine ⟨_, rfl, by decide +kernel, ?_, by decide +kernel, ?_⟩
  all_goals
    have hpos := mul_self_pos.mpr hne
    generalize (Binary64.ofDecimal false 1 (-200)).toRat = t at hpos
  · rw [Binary64.toRat_zero, mul_zero, sub_zero, abs_zero, pow_two, abs_of_pos hpos, max_eq_left hpos.le]
    linarith
  · rw [Binary64.toRat_zero, mul_zero, sub_zero, abs_zero, abs_of_pos hpos, max_eq_left hpos.le]
    linarith

end WorkedEquations
