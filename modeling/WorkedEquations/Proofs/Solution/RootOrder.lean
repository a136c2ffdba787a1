/-
The order of the two roots of a quadratic.

The numerators stand in the order of the exact ones, and rounding keeps an order;
what it does not keep is a distance. Two roots become one only in the quotients,
where a small root over a great coefficient has hardly a digit left: the
tolerance of the discriminant keeps the numerators apart by a millionth at least.

The root with the plus is the greater one over a positive coefficient and the
lesser one over a negative one, or they are equal (`roots_le`). Equal roots have
next to no root of the discriminant between them, and lie next to zero
(`RootFormula.root_le`, `RootFormula.abs_le`). So the order is strict wherever
the exact roots are two least positive numbers apart, or one root is farther
from zero than a million (`roots_ordered`).
-/
import WorkedEquations.Proofs.Solution.Residual

namespace WorkedEquations

open Binary64 (roundoff underflow underflow_pos)

/-! ## Equal values of the formula -/

section
variable {A B D w X : ℚ}

/-- What decides between one root and two keeps `B` below a few million roots of the discriminant. -/
theorem RootFormula.abs_coefficient_le (h : RootFormula A B D w X) (hw : 0 ≤ w)
    (hB : B ^ 2 ≤ 2 * 10 ^ 12 * D) : |B| ≤ 15 * 10 ^ 5 * w := by
  have hsquare := (abs_le.mp h.square).1
  refine abs_le_of_sq_le_sq ?_ (by positivity)
  rw [roundoff] at hsquare
  rw [mul_pow]
  linarith [sq_nonneg B]

variable (hplus : RootFormula A B D w X) (hminus : RootFormula A B D (-w) X) (hw : 0 ≤ w)
  (hB : B ^ 2 ≤ 2 * 10 ^ 12 * D)
include hplus hminus hw hB

/-- **One value with both signs** leaves no more between them than quotients lose where the digits
run out. -/
theorem RootFormula.root_le : w ≤ 201 / 100 * (|A| * underflow) := by
  have hsize := hplus.abs_coefficient_le hw hB
  have hp := hplus.value
  have hm := hminus.value
  have hgap : |w - B| ≤ w + |B| := (abs_sub w B).trans_eq (by rw [abs_of_nonneg hw])
  have hgap' : |-w - B| ≤ w + |B| := (abs_sub (-w) B).trans_eq (by rw [abs_neg, abs_of_nonneg hw])
  have hp' := (abs_le.mp hp).1
  have hm' := (abs_le.mp hm).2
  have hlost : 0 ≤ |A| * underflow := mul_nonneg (abs_nonneg A) underflow_pos.le
  rw [roundoff] at *
  linarith

theorem RootFormula.abs_le (h0 : A ≠ 0) : |X| ≤ 2 * 10 ^ 6 * underflow := by
  have hsize := hplus.abs_coefficient_le hw hB
  have hroot := RootFormula.root_le hplus hminus hw hB
  have hvalue := hplus.value
  have hgap : |w - B| ≤ w + |B| := (abs_sub w B).trans_eq (by rw [abs_of_nonneg hw])
  have hparts := abs_sub_abs_le_abs_sub (2 * A * X) (w - B)
  have hexact : 2 * A * X - (w - B) = 2 * A * X + B - w := by ring
  have htwice : |2 * A * X| = 2 * (|A| * |X|) := by rw [abs_mul, abs_mul, abs_two, mul_assoc]
  have hlost : 0 ≤ |A| * underflow := mul_nonneg (abs_nonneg A) underflow_pos.le
  rw [hexact, htwice] at hparts
  refine le_of_mul_le_mul_left ?_ (abs_pos.mpr h0)
  rw [roundoff] at *
  linarith

end

/-! ## The order of the quotients -/

namespace Derivation
variable {a b c x₁ x₂ n₁ n₂ t : Binary64} {v : Char}

theorem quotient_le_quotient (ht : t.isFinite = true) (h0 : t.toRat ≠ 0)
    (h₁ : (quotient n₁ t).isFinite = true) (h₂ : (quotient n₂ t).isFinite = true)
    (h : n₁.toRat / t.toRat ≤ n₂.toRat / t.toRat) :
    (quotient n₁ t).toRat ≤ (quotient n₂ t).toRat := by
  unfold quotient at h₁ h₂ ⊢
  rw [Binary64.isFinite_add_zero] at h₁ h₂
  rw [Binary64.toRat_add_zero, Binary64.toRat_add_zero]
  exact (Binary64.rounds_div (Binary64.isFinite_of_div h₁) ht h0).le
    (Binary64.rounds_div (Binary64.isFinite_of_div h₂) ht h0) h₁ h₂ h

/-- **The roots never stand the wrong way round.** -/
theorem roots_le (h : (quadratic a b c v).solution = .values [x₁, x₂]) :
    (0 < a.toRat → x₂.toRat ≤ x₁.toRat) ∧ (a.toRat < 0 → x₁.toRat ≤ x₂.toRat) := by
  obtain ⟨-, hdelta, hfinite, -⟩ := values_of_quadratic h
  obtain ⟨hpos, hb, hroot, rfl, rfl⟩ := roots_of_quadratic h
  obtain ⟨htwice, hexact⟩ := toRat_two_mul hdelta
  have hplus := hfinite _ List.mem_cons_self
  have hminus := hfinite _ (List.mem_cons_of_mem _ List.mem_cons_self)
  have hsum := isFinite_of_quotient hplus
  have hdifference := isFinite_of_quotient hminus
  obtain ⟨hroot0, -⟩ := Binary64.sqrt_sq_sub_le hdelta hpos hroot
  have hnumerators : (-b - (discriminant a b c).sqrt).toRat ≤ (-b + (discriminant a b c).sqrt).toRat :=
    (Binary64.rounds_sub hb hroot).le (Binary64.rounds_add hb hroot) hdifference hsum (by linarith)
  constructor
  · intro ha
    refine quotient_le_quotient htwice (by rw [hexact]; linarith) hminus hplus ?_
    exact div_le_div_of_nonneg_right hnumerators (by rw [hexact]; linarith)
  · intro ha
    refine quotient_le_quotient htwice (by rw [hexact]; linarith) hplus hminus ?_
    exact div_le_div_of_nonpos_of_le (by rw [hexact]; linarith) hnumerators

end Derivation

/-! ## Roots apart -/

/-- The exact roots are at least two least positive numbers apart: the exact discriminant is the
square of their distance, times that of the leading coefficient. -/
def RootsApart (a b c : Binary64) : Prop :=
  (1 / 2 ^ 1073 * a.toRat) ^ 2 ≤ b.toRat ^ 2 - 4 * a.toRat * c.toRat

namespace Derivation
variable {a b c x₁ x₂ : Binary64} {v : Char}

/-- **Two roots that come out equal** are exact roots too close for the format, next to zero. -/
theorem not_apart_of_eq (h : (quadratic a b c v).solution = .values [x₁, x₂])
    (heq : x₁.toRat = x₂.toRat) : ¬ RootsApart a b c ∧ |x₁.toRat| ≤ 10 ^ 6 / 2 ^ 1074 := by
  obtain ⟨ha, hdelta, -, -⟩ := values_of_quadratic h
  obtain ⟨hpos, w, hw, hplus, hminus⟩ := rootFormula_of_roots h
  obtain ⟨hsquare, hproduct⟩ := discriminant_rounds hdelta
  have h0 := leading_ne_zero ha hdelta
  have hdecided := (relativeDifference_ne_zero hsquare hproduct hdelta hpos.ne').2
  have hexact := abs_sub_le_relativeDifference hsquare hproduct hdelta hpos.ne'
  rw [← discriminant_eq, abs_of_pos hpos] at hdecided hexact
  rw [← heq] at hminus
  have hB : b.toRat ^ 2 ≤ 2 * 10 ^ 12 * (discriminant a b c).toRat :=
    ((le_abs_self _).trans (le_max_left _ _)).trans hdecided
  have hroot := RootFormula.root_le hplus hminus hw hB
  have hnear := RootFormula.abs_le hplus hminus hw hB h0
  constructor
  · -- The root of the discriminant is that of the exact one, up to a factor below two.
    intro hapart
    have hsteps : (1 : ℚ) / 2 ^ 1073 = 4 * underflow := by
      rw [Binary64.underflow_eq_mul (j := 1073) (k := 2) rfl]
      generalize (1 : ℚ) / 2 ^ 1073 = step
      ring
    have hlost : 0 < |a.toRat| * underflow := mul_pos (abs_pos.mpr h0) underflow_pos
    have hbound := mul_self_le_mul_self hw hroot
    have hfactor := (abs_le.mp hplus.square).1
    have hclose := (le_abs_self _).trans hexact
    unfold RootsApart at hapart
    have hdistance : (1 / 2 ^ 1073 * a.toRat) ^ 2 = 16 * (|a.toRat| * underflow) ^ 2 := by
      rw [hsteps, mul_pow, mul_pow, mul_pow, sq_abs]
      ring
    rw [hdistance] at hapart
    have hsq := pow_pos hlost 2
    rw [roundoff] at hfactor
    linarith
  · have hsteps : (10 : ℚ) ^ 6 / 2 ^ 1074 = 2 * 10 ^ 6 * underflow := by
      rw [Binary64.underflow_eq_mul (j := 1074) (k := 1) rfl, div_eq_mul_one_div]
      generalize (1 : ℚ) / 2 ^ 1074 = step
      ring
    rw [hsteps]
    exact hnear

end Derivation

/-- **The order of two roots.** Over a positive leading coefficient the first root is the greater one,
over a negative one the lesser. They are two different numbers wherever the exact roots are two least
positive numbers apart, or the first is farther from zero than a million of those. -/
theorem roots_ordered {a b c x₁ x₂ : Binary64} {v : Char}
    (h : (Derivation.quadratic a b c v).solution = .values [x₁, x₂]) :
    (0 < a → x₂ ≤ x₁) ∧ (a < 0 → x₁ ≤ x₂) ∧
      (RootsApart a b c ∨ 10 ^ 6 / 2 ^ 1074 < |x₁.toRat| →
        (0 < a → x₂ < x₁) ∧ (a < 0 → x₁ < x₂)) := by
  obtain ⟨-, hdelta, hfinite, -⟩ := Derivation.values_of_quadratic h
  obtain ⟨-, hproduct, -, -⟩ := relativeDifference_cases (discriminant_eq a b c ▸ hdelta)
  have ha := (Binary64.isFinite_of_mul (Binary64.isFinite_of_mul hproduct).1).2
  have h₁ := hfinite x₁ (by simp)
  have h₂ := hfinite x₂ (by simp)
  obtain ⟨hpositive, hnegative⟩ := Derivation.roots_le h
  rw [Binary64.lt_iff_toRat rfl ha, Binary64.lt_iff_toRat ha rfl, Binary64.le_iff_toRat h₁ h₂,
    Binary64.le_iff_toRat h₂ h₁, Binary64.lt_iff_toRat h₁ h₂, Binary64.lt_iff_toRat h₂ h₁,
    Binary64.toRat_zero]
  refine ⟨hpositive, hnegative, fun hfar => ?_⟩
  have hne : x₁.toRat ≠ x₂.toRat := by
    intro heq
    obtain ⟨hclose, hnear⟩ := Derivation.not_apart_of_eq h heq
    exact hfar.elim hclose (not_lt_of_ge hnear)
  exact ⟨fun hpos => lt_of_le_of_ne (hpositive hpos) hne.symm,
    fun hneg => lt_of_le_of_ne (hnegative hneg) hne⟩

/-- Two roots a step of the tolerance apart: the discriminant is one, and its parts are more than half
a million million. -/
theorem roots_ordered_close : ∃ b c : Binary64, b = -800001 ∧ c = 160000400000 ∧
    (Derivation.quadratic 1 b c 'x').solution = .values [400001, 400000] ∧
    (400000 : Binary64) < 400001 := by
  have h : (Derivation.quadratic 1 (-800001) 160000400000 'x').solution = .values [400001, 400000] := by
    decide +kernel
  refine ⟨_, _, rfl, rfl, h, ((roots_ordered h).2.2 (.inl ?_)).1 (by decide +kernel)⟩
  have hsteps : (1 / 2 ^ 1073 : ℚ) ^ 2 ≤ 1 :=
    pow_le_one₀ (by positivity) ((div_le_one₀ (by positivity)).mpr (one_le_pow₀ one_le_two))
  rw [RootsApart, Binary64.toRat_neg, Binary64.toRat_one, Binary64.toRat_lit 800001 (by decide),
    Binary64.toRat_lit 160000400000 (by decide), mul_one]
  refine hsteps.trans ?_
  norm_num only

/-- Nearer than that, one number may be given twice: `1e162·x² + 2.7e-162·x = 0` has the roots zero and
about `-2.7e-324`, which rounds to the negative number next to zero, and both values are zero. -/
theorem roots_coincide : ∃ a b : Binary64, a = .ofDecimal false 1 162 ∧ b = .ofDecimal false 27 (-163) ∧
    (Derivation.quadratic a b 0 'x').solution = .values [0, 0] ∧ 0 < a ∧ ¬ (0 : Binary64) < 0 :=
  ⟨_, _, rfl, rfl, by decide +kernel, by decide +kernel, by decide +kernel⟩

end WorkedEquations
