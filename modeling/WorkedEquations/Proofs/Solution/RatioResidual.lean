/-
What is left of a system when its solution is put back into it.

Three determinants are rounded each on its own, so what is left grows as the
rows come closer to each other: it is bounded by how far the exact determinant
is below the greater of its two products.

From the rounding of a determinant (`crossDifference_sub_le`) the step is made
in exact numbers (`CramerRule.det_mul_residual_le`), and then for both rows of
every solved system (`system_residual`).
-/
import WorkedEquations.Proofs.Solution.Residual
import WorkedEquations.Proofs.Solution.Symmetry

namespace WorkedEquations

open Binary64 (roundoff underflow underflow_pos)

/-! ## Determinants -/

/-- **A determinant** is exact up to the rounding of its products and of their difference. -/
theorem crossDifference_sub_le {p q r s : Binary64}
    (h : (crossDifference p q r s).isFinite = true) :
    |(crossDifference p q r s).toRat - (p.toRat * s.toRat - r.toRat * q.toRat)| ≤
      3 * roundoff * (|p.toRat * s.toRat| + |r.toRat * q.toRat|) + 3 * underflow := by
  unfold crossDifference at h ⊢
  obtain ⟨hps, hrq⟩ := Binary64.isFinite_of_sub h
  obtain ⟨hp, hs⟩ := Binary64.isFinite_of_mul hps
  obtain ⟨hr, hq⟩ := Binary64.isFinite_of_mul hrq
  have hleft := (Binary64.rounds_mul hp hs).abs_sub_le hps
  have hright := (Binary64.rounds_mul hr hq).abs_sub_le hrq
  have hdiff := Binary64.toRat_sub_sub_le hps hrq h
  have hsize := abs_sub (p * s).toRat (r * q).toRat
  have hleft' := abs_sub_abs_le_abs_sub (p * s).toRat (p.toRat * s.toRat)
  have hright' := abs_sub_abs_le_abs_sub (r * q).toRat (r.toRat * q.toRat)
  have hparts : (p * s - r * q).toRat - (p.toRat * s.toRat - r.toRat * q.toRat) =
      ((p * s - r * q).toRat - ((p * s).toRat - (r * q).toRat)) +
        (((p * s).toRat - p.toRat * s.toRat) - ((r * q).toRat - r.toRat * q.toRat)) := by ring
  have htri := abs_add_le ((p * s - r * q).toRat - ((p * s).toRat - (r * q).toRat))
    (((p * s).toRat - p.toRat * s.toRat) - ((r * q).toRat - r.toRat * q.toRat))
  have hproducts := abs_sub ((p * s).toRat - p.toRat * s.toRat) ((r * q).toRat - r.toRat * q.toRat)
  have hunder := underflow_pos
  have hps0 := abs_nonneg (p.toRat * s.toRat)
  have hrq0 := abs_nonneg (r.toRat * q.toRat)
  rw [hparts]
  rw [roundoff] at *
  linarith

/-! ## Cramer's rule in exact numbers -/

/-- `X` and `Y` come from Cramer's rule for the rows `a b c` and `a' b' c'`, with `d` for the
determinant. -/
structure CramerRule (a b c a' b' c' d X Y : ℚ) : Prop where
  /-- The determinant was not taken for zero. -/
  decided : max |a * b'| |a' * b| ≤ 2 * 10 ^ 12 * |d|
  det : |d - (a * b' - a' * b)| ≤ 3 * roundoff * (|a * b'| + |a' * b|) + 3 * underflow
  left : |d * X - (c * b' - c' * b)| ≤ 3 * roundoff * (|c * b'| + |c' * b|) + 3 * underflow +
    2 * |d| * (roundoff * |X| + underflow)
  right : |d * Y - (a * c' - a' * c)| ≤ 3 * roundoff * (|a * c'| + |a' * c|) + 3 * underflow +
    2 * |d| * (roundoff * |Y| + underflow)

section
variable {a b c a' b' c' d X Y : ℚ}

/-- What a row leaves comes from the three determinants. -/
theorem det_mul_row (a b c a' b' c' d X Y : ℚ) : d * (a * X + b * Y - c) =
    a * (d * X - (c * b' - c' * b)) + b * (d * Y - (a * c' - a' * c)) -
      c * (d - (a * b' - a' * b)) := by
  ring

/-- The one product of three coefficients that is in no term of the row. -/
theorem mixed_mul_det (a b c a' b' c' d X Y : ℚ) : a * b * c' * (a * b' - a' * b) =
    a' * b * (d * (a * X) - a * (d * X - (c * b' - c' * b))) +
      a * b' * (d * (b * Y) - b * (d * Y - (a * c' - a' * c))) := by
  ring

theorem mixed_mul_det_le {S : ℚ} (hX : |a * X| ≤ S) (hY : |b * Y| ≤ S) :
    |a * b * c'| * |a * b' - a' * b| ≤ max |a * b'| |a' * b| * (2 * (|d| * S) +
      (|a * (d * X - (c * b' - c' * b))| + |b * (d * Y - (a * c' - a' * c))|)) := by
  have hM0 : 0 ≤ max |a * b'| |a' * b| := le_max_of_le_left (abs_nonneg _)
  have hx := abs_sub (d * (a * X)) (a * (d * X - (c * b' - c' * b)))
  have hy := abs_sub (d * (b * Y)) (b * (d * Y - (a * c' - a' * c)))
  have hX' := mul_le_mul_of_nonneg_left hX (abs_nonneg d)
  have hY' := mul_le_mul_of_nonneg_left hY (abs_nonneg d)
  rw [abs_mul d] at hx hy
  have hleft := mul_le_mul (le_max_right |a * b'| |a' * b|) (hx.trans (add_le_add_left hX' _))
    (abs_nonneg _) hM0
  have hright := mul_le_mul (le_max_left |a * b'| |a' * b|) (hy.trans (add_le_add_left hY' _))
    (abs_nonneg _) hM0
  rw [← abs_mul, mixed_mul_det a b c a' b' c' d X Y]
  refine (abs_add_le _ _).trans ?_
  rw [abs_mul (a' * b), abs_mul (a * b')]
  exact (add_le_add hleft hright).trans_eq (by ring)

theorem coefficient_mul_le {t e f g Z S : ℚ}
    (he : |e| ≤ 3 * roundoff * (f + g) + 3 * underflow + 2 * |d| * (roundoff * |Z| + underflow))
    (hS : 1 ≤ S) (hZ : |t * Z| ≤ S) (ht : |t| * underflow ≤ 1 / 2 ^ 51) :
    |t * e| ≤ 3 * roundoff * (|t| * f + |t| * g) + 3 * (|t| * underflow) +
      10 * roundoff * (|d| * S) := by
  have hpart : roundoff * |t * Z| + |t| * underflow ≤ 5 * roundoff * S := by
    rw [roundoff]
    linarith
  have hd := mul_le_mul_of_nonneg_left hpart (by positivity : 0 ≤ 2 * |d|)
  rw [abs_mul] at hd
  calc |t * e| = |t| * |e| := abs_mul t e
    _ ≤ |t| * (3 * roundoff * (f + g) + 3 * underflow + 2 * |d| * (roundoff * |Z| + underflow)) :=
        mul_le_mul_of_nonneg_left he (abs_nonneg t)
    _ = 3 * roundoff * (|t| * f + |t| * g) + 3 * (|t| * underflow) +
          2 * |d| * (roundoff * (|t| * |Z|) + |t| * underflow) := by ring
    _ ≤ 3 * roundoff * (|t| * f + |t| * g) + 3 * (|t| * underflow) +
          10 * roundoff * (|d| * S) := by linarith only [hd]

/-- Where the exact determinant is not tiny, the rounded one is close to it, and rounding the products
is little beside it. -/
theorem CramerRule.det_bounds (h : CramerRule a b c a' b' c' d X Y)
    (hlarge : 1 / 2 ^ 1062 < |a * b' - a' * b|) :
    |d| ≤ 101 / 100 * |a * b' - a' * b| ∧ |a * b' - a' * b| ≤ 101 / 100 * |d| ∧
      roundoff * max |a * b'| |a' * b| ≤ 1 / 4000 * |a * b' - a' * b| := by
  obtain ⟨hdecided, hdet, -, -⟩ := h
  have hunder : underflow = 1 / 2 ^ 1062 * (1 / 2 ^ 13) := Binary64.underflow_eq_mul rfl
  have hleft : |a * b'| ≤ max |a * b'| |a' * b| := le_max_left _ _
  have hright : |a' * b| ≤ max |a * b'| |a' * b| := le_max_right _ _
  have hbelow := abs_sub_abs_le_abs_sub d (a * b' - a' * b)
  have habove := abs_sub_abs_le_abs_sub (a * b' - a' * b) d
  rw [abs_sub_comm (a * b' - a' * b) d] at habove
  generalize (1 : ℚ) / 2 ^ 1062 = tiny at *
  rw [hunder, roundoff] at hdet
  rw [roundoff]
  refine ⟨?_, ?_, ?_⟩ <;> linarith

variable {S : ℚ} (h : CramerRule a b c a' b' c' d X Y) (hS : 1 ≤ S) (hX : |a * X| ≤ S)
  (hY : |b * Y| ≤ S) (hc : |c| ≤ S) (ha : |a| * underflow ≤ 1 / 2 ^ 51)
  (hb : |b| * underflow ≤ 1 / 2 ^ 51)
include h hS hX hY hc ha hb

theorem CramerRule.parts_le :
    |a * (d * X - (c * b' - c' * b))| + |b * (d * Y - (a * c' - a' * c))| ≤
      6 * roundoff * (max |a * b'| |a' * b| * S) + 6 * roundoff * |a * b * c'| +
        3 * ((|a| + |b|) * underflow) + 20 * roundoff * (|d| * S) := by
  have hleft := coefficient_mul_le h.left hS hX ha
  have hright := coefficient_mul_le h.right hS hY hb
  have hscale : 0 ≤ max |a * b'| |a' * b| := le_max_of_le_left (abs_nonneg _)
  have hfirst : |a| * |c * b'| ≤ max |a * b'| |a' * b| * S := by
    calc |a| * |c * b'| = |a * b'| * |c| := by rw [← abs_mul, ← abs_mul]; ring_nf
      _ ≤ max |a * b'| |a' * b| * S := mul_le_mul (le_max_left _ _) hc (abs_nonneg c) hscale
  have hsecond : |b| * |a' * c| ≤ max |a * b'| |a' * b| * S := by
    calc |b| * |a' * c| = |a' * b| * |c| := by rw [← abs_mul, ← abs_mul]; ring_nf
      _ ≤ max |a * b'| |a' * b| * S := mul_le_mul (le_max_right _ _) hc (abs_nonneg c) hscale
  have hmixed : |a| * |c' * b| = |a * b * c'| := by rw [← abs_mul]; ring_nf
  have hmixed' : |b| * |a * c'| = |a * b * c'| := by rw [← abs_mul]; ring_nf
  rw [hmixed] at hleft
  rw [hmixed'] at hright
  rw [roundoff] at *
  linarith only [hleft, hright, hfirst, hsecond]

/-- **The mixed product** is as little as the others where the determinant is not tiny: the rule
itself bounds it. -/
theorem CramerRule.mixed_le (hlarge : 1 / 2 ^ 1062 < |a * b' - a' * b|) :
    roundoff * |a * b * c'| ≤ 21 / 10 * roundoff * (max |a * b'| |a' * b| * S) +
      (|a| + |b|) * underflow / 1000 := by
  have hparts := h.parts_le hS hX hY hc ha hb
  obtain ⟨hd, -, hround⟩ := h.det_bounds hlarge
  have hD0 : 0 < |a * b' - a' * b| := lt_trans (by positivity) hlarge
  have hM0 : 0 ≤ max |a * b'| |a' * b| := le_max_of_le_left (abs_nonneg _)
  have hlost : 0 ≤ (|a| + |b|) * underflow := mul_nonneg (by positivity) underflow_pos.le
  have hu : 0 ≤ roundoff := by norm_num [roundoff]
  have hscale : 0 ≤ roundoff * (max |a * b'| |a' * b| * S) :=
    mul_nonneg hu (mul_nonneg hM0 (zero_le_one.trans hS))
  have hmixed : 0 ≤ roundoff * |a * b * c'| := mul_nonneg hu (abs_nonneg _)
  -- Each part of the bound holds the rounded products as a factor, so the determinant.
  have hdet := mul_le_mul_of_nonneg_left hd hscale
  have hpart₁ := mul_le_mul_of_nonneg_right hround hscale
  have hpart₂ := mul_le_mul_of_nonneg_right hround hmixed
  have hpart₃ := mul_le_mul_of_nonneg_right hround hlost
  have hproduct := mul_le_mul_of_nonneg_left
    ((mixed_mul_det_le hX hY).trans (mul_le_mul_of_nonneg_left (add_le_add_right hparts _) hM0)) hu
  refine le_of_mul_le_mul_right ?_ hD0
  rw [roundoff] at *
  linarith only [hproduct, hdet, hpart₁, hpart₂, hpart₃, mul_nonneg hscale hD0.le,
    mul_nonneg hmixed hD0.le, mul_nonneg hlost hD0.le]

theorem CramerRule.rounded_mul_residual_le : |d| * |a * X + b * Y - c| ≤
    12 * roundoff * (max |a * b'| |a' * b| * S) + 6 * roundoff * |a * b * c'| +
      3 * ((|a| + |b|) * underflow) + 20 * roundoff * (|d| * S) + 3 * (underflow * S) := by
  have hparts := h.parts_le hS hX hY hc ha hb
  have hS0 : 0 ≤ S := zero_le_one.trans hS
  have hconstant : |c * (d - (a * b' - a' * b))| ≤ S * |d - (a * b' - a' * b)| := by
    rw [abs_mul]
    exact mul_le_mul_of_nonneg_right hc (abs_nonneg _)
  have hsum : |a * b'| + |a' * b| ≤ 2 * max |a * b'| |a' * b| := by
    have := le_max_left |a * b'| |a' * b|
    have := le_max_right |a * b'| |a' * b|
    linarith
  have hdet := mul_le_mul_of_nonneg_left h.det hS0
  have hsumS := mul_le_mul_of_nonneg_left hsum hS0
  rw [← abs_mul, det_mul_row a b c a' b' c' d X Y]
  refine (abs_sub _ _).trans ((add_le_add (abs_add_le _ _) hconstant).trans ?_)
  rw [roundoff] at *
  linarith only [hparts, hdet, hsumS]

/-- **What a row leaves,** times the exact determinant: little beside the products of the determinant,
as parts of the greatest term of the row. -/
theorem CramerRule.det_mul_residual_le : |a * b' - a' * b| * |a * X + b * Y - c| ≤
    (1 / 10 ^ 14 * max |a * b'| |a' * b| + 1 / 2 ^ 1060 * (1 + |a| + |b|)) * S := by
  have hS0 : 0 ≤ S := zero_le_one.trans hS
  have hscale : 0 ≤ max |a * b'| |a' * b| * S := mul_nonneg (le_max_of_le_left (abs_nonneg _)) hS0
  rcases le_or_gt |a * b' - a' * b| (1 / 2 ^ 1062) with htiny | hlarge
  · -- Whatever the values are, the row leaves three times its greatest term at most.
    have hthree : |a * X + b * Y - c| ≤ 3 * S := by
      have := abs_sub (a * X + b * Y) c
      have := abs_add_le (a * X) (b * Y)
      linarith
    have hquarter : (1 : ℚ) / 2 ^ 1062 = 1 / 2 ^ 1060 * (1 / 4) := by
      rw [show (4 : ℚ) = 2 ^ 2 by norm_num, div_mul_div_comm, ← pow_add, one_mul]
    have htiny0 : (0 : ℚ) ≤ 1 / 2 ^ 1060 := by positivity
    rw [hquarter] at htiny
    generalize (1 : ℚ) / 2 ^ 1060 = tiny at *
    have hproduct := mul_le_mul htiny hthree (abs_nonneg _) (by positivity)
    have hrest : 0 ≤ tiny * (|a| + |b|) * S := by positivity
    linarith only [hproduct, hrest, hscale, mul_nonneg htiny0 hS0]
  · obtain ⟨hd, hd', -⟩ := h.det_bounds hlarge
    have hrounded := h.rounded_mul_residual_le hS hX hY hc ha hb
    have hmixed := h.mixed_le hS hX hY hc ha hb hlarge
    have hsize : |d| ≤ 3 * max |a * b'| |a' * b| := by
      have := abs_sub (a * b') (a' * b)
      have := le_max_left |a * b'| |a' * b|
      have := le_max_right |a * b'| |a' * b|
      linarith
    have hunder : (1 : ℚ) / 2 ^ 1060 = underflow * 2 ^ 15 := by
      rw [Binary64.underflow_eq_mul (j := 1060) (k := 15) rfl, mul_assoc,
        one_div_mul_cancel (by positivity), mul_one]
    have hlost : 0 ≤ (|a| + |b|) * underflow := mul_nonneg (by positivity) underflow_pos.le
    have hsizeS := mul_le_mul_of_nonneg_right hsize hS0
    have hlostS := mul_le_mul_of_nonneg_left hS hlost
    have hdet := mul_le_mul_of_nonneg_right hd' (abs_nonneg (a * X + b * Y - c))
    rw [hunder]
    rw [roundoff] at *
    linarith only [hdet, hrounded, hmixed, hsizeS, hlostS, hscale, hlost,
      mul_nonneg underflow_pos.le hS0]

end

/-! ## Solved systems -/

/-- The exact determinant of two rows. -/
def Row.det (r s : Row) : ℚ := r.a.toRat * s.b.toRat - s.a.toRat * r.b.toRat

/-- The greater product of the determinant. -/
def Row.detScale (r s : Row) : ℚ := max |r.a.toRat * s.b.toRat| |s.a.toRat * r.b.toRat|

theorem Row.abs_det_comm (r s : Row) : |r.det s| = |s.det r| := abs_sub_comm _ _

theorem Row.detScale_comm (r s : Row) : r.detScale s = s.detScale r := max_comm _ _

/-- What a row of a system may leave, times the exact determinant and in parts of its greatest term. -/
def Row.allowance (r s row : Row) : ℚ :=
  1 / 10 ^ 14 * r.detScale s + 1 / 2 ^ 1060 * (1 + |row.a.toRat| + |row.b.toRat|)

theorem Row.allowance_comm (r s row : Row) : r.allowance s row = s.allowance r row := by
  unfold allowance
  rw [detScale_comm]

theorem Row.allowance_pos (r s row : Row) : 0 < r.allowance s row := by
  have hscale : 0 ≤ r.detScale s := le_max_of_le_left (abs_nonneg _)
  unfold allowance
  positivity

/-- The terms of a row at two values. -/
def Row.terms (r : Row) (x y : Binary64) : List ℚ :=
  [r.a.toRat * x.toRat, r.b.toRat * y.toRat, -r.c.toRat]

theorem Row.residual_terms (r : Row) (x y : Binary64) :
    residual (r.terms x y) = |r.a.toRat * x.toRat + r.b.toRat * y.toRat - r.c.toRat| := by
  simp only [residual, Row.terms, List.sum_cons, List.sum_nil, add_zero, ← sub_eq_add_neg,
    add_sub_assoc]

namespace Derivation
variable {r s : Row} {x y : Binary64}

theorem values_of_system (h : (system r s).solution = .values [x, y]) :
    (determinant r s).isFinite = true ∧ (determinant r s).toRat ≠ 0 ∧
      x = quotient (crossDifference r.c r.b s.c s.b) (determinant r s) ∧ x.isFinite = true ∧
      y = quotient (crossDifference r.a r.c s.a s.c) (determinant r s) ∧ y.isFinite = true := by
  have hend := system_ending 'x' r s
  generalize system r s = e at h hend
  cases hend with
  | ratios _ hx hy hd hfinite hzero hdx hdy hvalue₁ hvalue₂ =>
    cases h
    subst hd hdx hdy
    exact ⟨hfinite, Binary64.toRat_ne_zero hfinite hzero, hvalue₁, hx.1, hvalue₂, hy.1⟩
  | zeroDeterminant | notFinite => cases h

theorem quotient_det_sub_le {p q p' q' d : Binary64} (hd : d.isFinite = true) (h0 : d.toRat ≠ 0)
    (h : (quotient (crossDifference p q p' q') d).isFinite = true) :
    |d.toRat * (quotient (crossDifference p q p' q') d).toRat -
        (p.toRat * q'.toRat - p'.toRat * q.toRat)| ≤
      3 * roundoff * (|p.toRat * q'.toRat| + |p'.toRat * q.toRat|) + 3 * underflow +
        2 * |d.toRat| * (roundoff * |(quotient (crossDifference p q p' q') d).toRat| + underflow) := by
  obtain ⟨hfinite, hquotient⟩ := quotient_mul_sub_le hd h0 h
  have hcross := crossDifference_sub_le hfinite
  rw [mul_comm]
  generalize (quotient (crossDifference p q p' q') d).toRat = Z at *
  generalize (crossDifference p q p' q').toRat = n at *
  have hsize := abs_sub_abs_le_abs_sub n (Z * d.toRat)
  rw [abs_sub_comm n, abs_mul] at hsize
  have htri := abs_sub_le (Z * d.toRat) n (p.toRat * q'.toRat - p'.toRat * q.toRat)
  have hproduct := mul_nonneg (abs_nonneg Z) (abs_nonneg d.toRat)
  have hlost := mul_nonneg (abs_nonneg d.toRat) underflow_pos.le
  rw [roundoff] at *
  linarith only [hquotient, hcross, hsize, htri, hproduct, hlost]

/-- **The values of a system come from Cramer's rule,** rounded. -/
theorem cramerRule_of_values (h : (system r s).solution = .values [x, y]) :
    CramerRule r.a.toRat r.b.toRat r.c.toRat s.a.toRat s.b.toRat s.c.toRat
      (determinant r s).toRat x.toRat y.toRat := by
  obtain ⟨hfinite, h0, rfl, hx, rfl, hy⟩ := values_of_system h
  obtain ⟨hleft, hright⟩ := determinant_rounds hfinite
  obtain ⟨hexact, hdecided⟩ := relativeDifference_ne_zero hleft hright hfinite h0
  rw [← determinant_eq] at hexact hdecided
  refine ⟨hdecided, ?_, quotient_det_sub_le hfinite h0 hx, quotient_det_sub_le hfinite h0 hy⟩
  have hcross : determinant r s = crossDifference r.a r.b s.a s.b := hexact
  rw [hcross]
  exact crossDifference_sub_le (hcross ▸ hfinite)

theorem first_row_residual (h : (system r s).solution = .values [x, y]) :
    |r.det s| * residual (r.terms x y) ≤ r.allowance s r * termScale (r.terms x y) := by
  rw [Row.residual_terms]
  have hc : |-r.c.toRat| ≤ termScale (r.terms x y) := abs_le_termScale (by simp [Row.terms])
  rw [abs_neg] at hc
  exact (cramerRule_of_values h).det_mul_residual_le (one_le_termScale _)
    (abs_le_termScale (by simp [Row.terms])) (abs_le_termScale (by simp [Row.terms])) hc
    r.a.abs_toRat_mul_underflow_le r.b.abs_toRat_mul_underflow_le

end Derivation

/-- **The solution of a system, put back.** What a row leaves grows as the exact determinant falls
below its products; a row leaves a millionth of its greatest term, or of one, at most where the
determinant is not too small for that. -/
theorem system_residual {r s : Row} {x y : Binary64}
    (h : (Derivation.system r s).solution = .values [x, y]) : ∀ row ∈ [r, s],
      |r.det s| * residual (row.terms x y) ≤ r.allowance s row * termScale (row.terms x y) ∧
      (r.allowance s row ≤ 1 / 10 ^ 6 * |r.det s| →
        residual (row.terms x y) ≤ 1 / 10 ^ 6 * termScale (row.terms x y)) := by
  intro row hrow
  have hleft : |r.det s| * residual (row.terms x y) ≤
      r.allowance s row * termScale (row.terms x y) := by
    rcases List.mem_pair.mp hrow with rfl | rfl
    · exact Derivation.first_row_residual h
    · have hswap := Derivation.first_row_residual ((Derivation.system_swap r row).trans h)
      rwa [Row.abs_det_comm, Row.allowance_comm] at hswap
  refine ⟨hleft, fun hsmall => ?_⟩
  have hscale := zero_le_one.trans (one_le_termScale (row.terms x y))
  have hpos : 0 < |r.det s| := by
    have := r.allowance_pos s row
    linarith
  refine le_of_mul_le_mul_left ?_ hpos
  calc |r.det s| * residual (row.terms x y)
      ≤ r.allowance s row * termScale (row.terms x y) := hleft
    _ ≤ 1 / 10 ^ 6 * |r.det s| * termScale (row.terms x y) :=
        mul_le_mul_of_nonneg_right hsmall hscale
    _ = |r.det s| * (1 / 10 ^ 6 * termScale (row.terms x y)) := by ring

/-- A system whose rows are far from each other. -/
theorem system_residual_crossing :
    residual (Row.terms ⟨2, 3, 7⟩ 2 1) ≤ 1 / 10 ^ 6 * termScale (Row.terms ⟨2, 3, 7⟩ 2 1) := by
  have h : (Derivation.system ⟨2, 3, 7⟩ ⟨1, -1, 1⟩).solution = .values [2, 1] := by decide +kernel
  refine (system_residual h ⟨2, 3, 7⟩ (by simp)).2 ?_
  have htwo : (2 : Binary64).toRat = 2 := Binary64.toRat_lit 2 (by decide)
  have hthree : (3 : Binary64).toRat = 3 := Binary64.toRat_lit 3 (by decide)
  have htiny : (1 : ℚ) / 2 ^ 1060 ≤ 1 / 2 ^ 60 :=
    one_div_le_one_div_of_le (by positivity) (pow_le_pow_right₀ one_le_two (by decide))
  simp only [Row.allowance, Row.detScale, Row.det, Binary64.toRat_neg, Binary64.toRat_one, htwo, hthree]
  generalize (1 : ℚ) / 2 ^ 1060 = tiny at *
  norm_num [abs_of_pos, abs_of_neg] at htiny ⊢
  linarith

/-- Rows that are near each other are solved all the same, and what they leave may be hundreds of times
the tolerance: here the solution is one and one, the determinant is 10605, and nearly four parts in ten
thousand are left. -/
theorem system_residual_near_singular : ∃ (r s : Row) (x : Binary64),
    r = ⟨100000110, 100000005, 200000115⟩ ∧ s = ⟨100000211, 100000106, 200000317⟩ ∧
      (Derivation.system r s).solution = .values [x, x] ∧
      ¬ residual (r.terms x x) ≤ 1 / 10 ^ 6 * termScale (r.terms x x) := by
  refine ⟨_, _, .ofBits 0x3ff0018b8a30172d, rfl, rfl, by decide +kernel, ?_⟩
  have ha : (100000110 : Binary64).toRat = 100000110 := Binary64.toRat_lit _ (by decide)
  have hb : (100000005 : Binary64).toRat = 100000005 := Binary64.toRat_lit _ (by decide)
  have hc : (200000115 : Binary64).toRat = 200000115 := Binary64.toRat_lit _ (by decide)
  have hx : (Binary64.ofBits 0x3ff0018b8a30172d).toRat = 4505298457859885 / 2 ^ 52 := by
    have hpow : (4503599627370496 : Binary64).toRat = 2 ^ 52 := by
      rw [Binary64.toRat_lit 4503599627370496 (by decide)]
      norm_num
    have hnum : (4505298457859885 : Binary64).toRat = 4505298457859885 :=
      Binary64.toRat_lit _ (by decide)
    have hproduct : 4503599627370496 * Binary64.ofBits 0x3ff0018b8a30172d = 4505298457859885 := by
      decide +kernel
    have hexact := Binary64.toRat_mul_of_two_pow hpow (y := .ofBits 0x3ff0018b8a30172d)
      (by rw [hproduct]; decide +kernel)
    rw [hproduct, hnum, hpow] at hexact
    rw [hexact, mul_div_cancel_left₀ _ (by positivity)]
  rw [Row.residual_terms]
  simp only [termScale, Row.terms, ha, hb, hc, hx, List.foldr_cons, List.foldr_nil]
  norm_num [abs_of_pos, abs_of_neg]

end WorkedEquations
