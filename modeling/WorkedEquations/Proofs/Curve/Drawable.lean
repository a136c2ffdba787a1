/-
Which plots can be drawn: those whose points are all finite.

That the numbers of an equation stayed in range says nothing of its samples. They
are computed from the coefficients and the window once more, and where they leave
the range they are part of the plot all the same. So what is said here is said of
the size of the terms: there is a bound below which every point is finite, and a
greater one above which some point is not.

For one point these are `isFinite_pointAt` and `terms_le_of_isFinite`, for a
window `drawable_samples` and `terms_le_of_drawable`. Beside real roots the
vertex is finite (`Derivation.isFinite_centre_of_values`). `plot_drawable` is
about the plots of worked equations.
-/
import WorkedEquations.Proofs.Curve.Span
import WorkedEquations.Proofs.Solution.Residual

namespace WorkedEquations

open Binary64 (roundoff)
open Magnitude (room)

/-! ## The vertex -/

namespace Derivation
variable {a b c : Binary64} {v : Char}

theorem isFinite_discriminant (ha : a.isZero = false)
    (h : (quadratic a b c v).solution ≠ .degenerate .outOfRange) :
    (discriminant a b c).isFinite = true := by
  have hend := quadratic_ending a b c v
  generalize quadratic a b c v = d at h hend
  cases hend with
  | notQuadratic _ hzero => cases ha.symm.trans hzero
  | noRealSolution _ _ hdelta hfinite => exact hdelta ▸ hfinite
  | repeatedRoot _ _ _ hzero => exact isFinite_of_isZero_eq hzero
  | roots _ _ _ _ hdelta hfinite => exact hdelta ▸ hfinite
  | notFinite => exact absurd rfl h

theorem isFinite_quotient_iff {n : Binary64} (ha : a.isZero = false)
    (hdelta : (discriminant a b c).isFinite = true) (hn : n.isFinite = true) :
    (quotient n (2 * a)).isFinite = true ↔ |n.toRat| < 2 * |a.toRat| * Magnitude.overflow := by
  obtain ⟨hfinite, hexact⟩ := toRat_two_mul hdelta
  have hne := leading_ne_zero ha hdelta
  have hpos : 0 < 2 * |a.toRat| := mul_pos two_pos (abs_pos.mpr hne)
  have hround := Binary64.rounds_div hn hfinite (by
    rw [hexact]
    exact mul_ne_zero two_ne_zero hne)
  rw [quotient, Binary64.isFinite_add_zero, hround.isFinite_iff, hexact, abs_div, abs_mul, abs_two,
    div_lt_iff₀' hpos]

/-- **Beside real roots the vertex is finite:** a single root is the vertex, and of two roots one
has a numerator that is no smaller. -/
theorem isFinite_centre_of_values {xs : List Binary64}
    (h : (quadratic a b c v).solution = .values xs) : (quotient (-b) (2 * a)).isFinite = true := by
  obtain ⟨ha, hdelta, hfinite, ⟨-, rfl⟩ | ⟨hpos, rfl⟩⟩ := values_of_quadratic h
  · exact hfinite _ List.mem_cons_self
  · obtain ⟨-, hb, hroot, -, -⟩ := roots_of_quadratic h
    have hplus := hfinite _ List.mem_cons_self
    have hminus := hfinite _ (List.mem_cons_of_mem _ List.mem_cons_self)
    have hsum := isFinite_of_quotient hplus
    have hdiff := isFinite_of_quotient hminus
    obtain ⟨hroot0, -⟩ := Binary64.sqrt_sq_sub_le hdelta hpos hroot
    have hround := Binary64.rounds_toRat hb
    rw [isFinite_quotient_iff ha hdelta hb]
    -- The root of the discriminant leads away from zero in one of the two numerators.
    rcases le_total (-b).toRat 0 with hneg | hnonneg
    · rw [isFinite_quotient_iff ha hdelta hdiff] at hminus
      have hle := (Binary64.rounds_sub hb hroot).le hround hdiff hb (by linarith)
      refine lt_of_le_of_lt ?_ hminus
      rw [abs_of_nonpos hneg, abs_of_nonpos (hle.trans hneg)]
      exact neg_le_neg hle
    · rw [isFinite_quotient_iff ha hdelta hsum] at hplus
      have hle := hround.le (Binary64.rounds_add hb hroot) hb hsum (by linarith)
      refine lt_of_le_of_lt ?_ hplus
      rwa [abs_of_nonneg hnonneg, abs_of_nonneg (hnonneg.trans hle)]

end Derivation

namespace Curve

/-! ## One point -/

/-- How great the terms of a parabola are together at a distance from zero. -/
def terms (a b c : Binary64) (q : ℚ) : ℚ := |a.toRat| * q ^ 2 + |b.toRat| * q + |c.toRat|

section
variable {a b c x : Binary64} {q r : ℚ}

theorem terms_le_terms (h0 : 0 ≤ q) (h : q ≤ r) : terms a b c q ≤ terms a b c r := by
  have hsquare := mul_le_mul_of_nonneg_left (pow_le_pow_left₀ h0 h 2) (abs_nonneg a.toRat)
  have hlinear := mul_le_mul_of_nonneg_left h (abs_nonneg b.toRat)
  rw [terms, terms]
  linarith

/-- The term of the square takes two products, and the first may be the greater one. -/
theorem isFinite_mul_of_sq (ha : a.isFinite = true) (hx : x.isFinite = true)
    (h : |a.toRat| * |x.toRat| ^ 2 ≤ 15 / 4 * room) : (a * x).isFinite = true := by
  refine (Binary64.rounds_mul ha hx).isFinite ?_
  rw [abs_mul]
  rcases le_total |x.toRat| 1 with hle | hle
  · exact (mul_le_of_le_one_right (abs_nonneg _) hle).trans_lt a.abs_toRat_lt_overflow
  · refine Magnitude.lt_overflow_of_le (le_trans ?_ h)
    exact mul_le_mul_of_nonneg_left (le_self_pow₀ hle two_ne_zero) (abs_nonneg _)

/-- What the first product loses below the normal range is little, however great `x` is. -/
theorem abs_mul_mul_le (ha : a.isFinite = true) (hx : x.isFinite = true)
    (hax : (a * x).isFinite = true) :
    |(a * x).toRat| * |x.toRat| ≤ 11 / 10 * (|a.toRat| * |x.toRat| ^ 2) + 1 := by
  have hsize := (Binary64.rounds_mul ha hx).abs_toRat_le hax
  have hlost := x.abs_toRat_mul_underflow_le
  have hsquare : 0 ≤ |a.toRat| * |x.toRat| ^ 2 := by positivity
  have hscaled := mul_le_mul_of_nonneg_right hsize (abs_nonneg x.toRat)
  rw [abs_mul] at hscaled
  refine hscaled.trans ?_
  rw [roundoff]
  linarith

/-- **Where the terms have room, a point is finite.** -/
theorem isFinite_pointAt (ha : a.isFinite = true) (hb : b.isFinite = true) (hc : c.isFinite = true)
    (hx : x.isFinite = true) (h : terms a b c |x.toRat| ≤ 2 * room) :
    (pointAt a b c x).y.isFinite = true := by
  have hroom : 2 ^ 4 ≤ room := Magnitude.le_room (by decide)
  have hsquare : 0 ≤ |a.toRat| * |x.toRat| ^ 2 := by positivity
  have hlinear : 0 ≤ |b.toRat| * |x.toRat| := by positivity
  have hconstant := abs_nonneg c.toRat
  rw [terms] at h
  have hax := isFinite_mul_of_sq ha hx (by linarith)
  have hproduct := abs_mul_mul_le ha hx hax
  obtain ⟨haxx, hfirst⟩ := Binary64.mul_in_range hax hx (by linarith)
  obtain ⟨hbx, hsecond⟩ := Binary64.mul_in_range hb hx (by linarith)
  obtain ⟨hsum, hthird⟩ := Binary64.add_in_range haxx hbx (by linarith)
  exact (Binary64.add_in_range hsum hc (by linarith)).1

/-- **Only where they have.** -/
theorem terms_le_of_isFinite (h : (pointAt a b c x).y.isFinite = true) :
    terms a b c |x.toRat| ≤ 2 ^ 1027 := by
  obtain ⟨hsum, -⟩ := Binary64.isFinite_of_add h
  obtain ⟨haxx, hbx⟩ := Binary64.isFinite_of_add hsum
  obtain ⟨hax, hx⟩ := Binary64.isFinite_of_mul haxx
  obtain ⟨ha, -⟩ := Binary64.isFinite_of_mul hax
  obtain ⟨hb, -⟩ := Binary64.isFinite_of_mul hbx
  have hsquare := ((Binary64.rounds_mul hax hx).abs_toRat_rough haxx).2
  have hinner := ((Binary64.rounds_mul ha hx).abs_toRat_rough hax).2
  have hlinear := ((Binary64.rounds_mul hb hx).abs_toRat_rough hbx).2
  have hscaled := mul_le_mul_of_nonneg_right hinner (abs_nonneg x.toRat)
  rw [abs_mul] at hsquare hlinear hscaled
  have hone : (1 : ℚ) ≤ 2 ^ 1024 := one_le_pow₀ one_le_two
  have hroom : (2 : ℚ) ^ 1027 = 2 ^ 3 * 2 ^ 1024 := by rw [← pow_add]
  have hxlt := x.abs_toRat_lt
  have hclt := c.abs_toRat_lt
  have haxxlt := (a * x * x).abs_toRat_lt
  have hbxlt := (b * x).abs_toRat_lt
  rw [terms, pow_two, ← mul_assoc, hroom]
  generalize (2 : ℚ) ^ 1024 = bound at *
  linarith only [hscaled, hsquare, hlinear, hone, hxlt, hclt, haxxlt, hbxlt]

end

/-! ## All points -/

/-- Every point can be drawn: both its numbers are finite. -/
def Drawable (points : List Point) : Prop :=
  ∀ p ∈ points, p.x.isFinite = true ∧ p.y.isFinite = true

instance (points : List Point) : Decidable (Drawable points) :=
  inferInstanceAs (Decidable (∀ p ∈ points, p.x.isFinite = true ∧ p.y.isFinite = true))

section
variable {w : Window} {a b c centre : Binary64} {n i : Nat} (hw : w.Proper) (hcount : w.Counted n)
include hw hcount

theorem abs_abscissa_le (hi : i ≤ n) (h : (abscissa w centre i).isFinite = true) :
    |(abscissa w centre i).toRat| ≤ 2 * reach w centre := by
  have hnear := abs_abscissa_sub_le hw hcount hi h
  have hsize := (abs_sub_abs_le_abs_sub _ _).trans hnear
  have hexact : |exactAbscissa w centre i| ≤ |centre.toRat| + 31 / 20 * w.halfWidth.toRat := by
    have hlow := neg_abs_le centre.toRat
    have hhigh := le_abs_self centre.toRat
    have hsteps := mul_step_le hw hcount hi
    have hsteps0 : 0 ≤ i * w.step.toRat := mul_nonneg (Nat.cast_nonneg i) hw.step_pos.le
    have hpos := hw.halfWidth_pos
    rw [exactAbscissa, abs_le]
    constructor <;> linarith
  have hcentre := abs_nonneg centre.toRat
  have hpos := hw.halfWidth_pos
  rw [reach] at *
  linarith

theorem exists_reach_le (h : ∀ i ≤ n, (abscissa w centre i).isFinite = true) :
    ∃ i ≤ n, reach w centre / 3 ≤ |(abscissa w centre i).toRat| := by
  have hpos := hw.halfWidth_pos
  have hstep := hw.step_le
  have hreach := halfWidth_le_reach w centre
  -- Left of zero the first sample is the farther one, and right of it the last, which falls short
  -- of the end by half a step at most.
  rcases le_total centre.toRat 0 with hneg | hnonneg
  · refine ⟨0, n.zero_le, ?_⟩
    have hnear := abs_le.mp (abs_abscissa_sub_le hw hcount n.zero_le (h 0 n.zero_le))
    rw [exactAbscissa, Nat.cast_zero, zero_mul, add_zero] at hnear
    refine le_trans ?_ (neg_le_abs _)
    rw [reach, abs_of_nonpos hneg] at *
    linarith
  · refine ⟨n, le_rfl, ?_⟩
    have hnear := abs_le.mp (abs_abscissa_sub_le hw hcount le_rfl (h n le_rfl))
    have hover := abs_le.mp (hw.abs_mul_step_sub_le hcount)
    refine le_trans ?_ (le_abs_self _)
    rw [exactAbscissa] at hnear
    rw [reach, abs_of_nonneg hnonneg] at *
    linarith

variable (hcentre : vertex? a b = some centre) (hn : w.intervals? = some n)
include hcentre hn

/-- **Where the terms have room as far as the window reaches,** and twice as far, every point of it
is finite. -/
theorem drawable_samples (ha : a.isFinite = true) (hb : b.isFinite = true) (hc : c.isFinite = true)
    (hfinite : centre.isFinite = true) (hreach : reach w centre ≤ room)
    (hterms : terms a b c (2 * reach w centre) ≤ 2 * room) : Drawable (samples w a b c) := by
  intro p hp
  obtain ⟨i, hi, rfl⟩ := (mem_samples hcentre hn).mp hp
  have hx := isFinite_abscissa hw hcount hfinite hreach hi
  have hle := terms_le_terms (a := a) (b := b) (c := c) (abs_nonneg _)
    (abs_abscissa_le hw hcount hi hx)
  exact ⟨hx, isFinite_pointAt ha hb hc hx (hle.trans hterms)⟩

/-- **Only there,** but for the distance and the size of the room. -/
theorem terms_le_of_drawable (h : Drawable (samples w a b c)) : centre.isFinite = true ∧
    terms a b c (reach w centre / 3) ≤ 2 ^ 1027 := by
  have hpoint : ∀ i ≤ n, (abscissa w centre i).isFinite = true ∧
      (pointAt a b c (abscissa w centre i)).y.isFinite = true :=
    fun i hi => h _ ((mem_samples hcentre hn).mpr ⟨i, hi, rfl⟩)
  refine ⟨(isFinite_of_abscissa (hpoint 0 n.zero_le).1).1, ?_⟩
  obtain ⟨i, hi, hle⟩ := exists_reach_le hw hcount fun i hi => (hpoint i hi).1
  have hpos := hw.halfWidth_pos.trans_le (halfWidth_le_reach w centre)
  exact (terms_le_terms (div_nonneg hpos.le zero_le_three) hle).trans
    (terms_le_of_isFinite (hpoint i hi).2)

end

end Curve

/-- **What plots can be drawn.** A plot made under valid settings holds the samples of the parabola
that was read. Its vertex is finite exactly if `b` is below `2·a` times the threshold, as it is
beside real roots. All points are finite if the vertex is and if, twice as far from zero as the
window reaches, the terms come to `2 ^ 1023` at most; and not if they come to more than `2 ^ 1027` a
third as far. -/
theorem plot_drawable {s : Settings} {raw : String} {second : Option String} {family : Family}
    {w : Worked} {points : List Point} (hs : s.IsValid)
    (hw : solveWith s raw second family = .ok w) (hplot : w.plot = some points) :
    ∃ a b c v centre,
      Worked.classified (Worked.canonical raw second family) family =
        .ok ⟨.quadratic a b c, v⟩ ∧
      Curve.vertex? a b = some centre ∧ points = Curve.samples s.window a b c ∧
      (centre.isFinite = true ↔ |b.toRat| < 2 * |a.toRat| * Magnitude.overflow) ∧
      (∀ xs, w.solution = .values xs → centre.isFinite = true) ∧
      (centre.isFinite = true → Curve.reach s.window centre ≤ 2 ^ 1022 →
        Curve.terms a b c (2 * Curve.reach s.window centre) ≤ 2 ^ 1023 →
        Curve.Drawable points) ∧
      (Curve.Drawable points → centre.isFinite = true ∧
        Curve.terms a b c (Curve.reach s.window centre / 3) ≤ 2 ^ 1027) := by
  obtain ⟨hproper, n, hn, hcount⟩ := hs.exists_counted
  obtain ⟨a, b, c, v, he, hzero, hsolution, hrange, rfl⟩ := Worked.samples_of_plot hw hplot
  have hcentre : Curve.vertex? a b = some (Derivation.quotient (-b) (2 * a)) :=
    Curve.vertex?_eq_some_iff.mpr ⟨hzero, rfl⟩
  rw [hsolution] at hrange ⊢
  have hdelta := Derivation.isFinite_discriminant hzero hrange
  cases Worked.taken_of_canonical he with
  | quadratic ha hb hc hletter =>
    refine ⟨a, b, c, v, _, he, hcentre, rfl, ?_, fun xs h => Derivation.isFinite_centre_of_values h,
      fun hfinite hreach hterms => Curve.drawable_samples hproper hcount hcentre hn ha hb hc hfinite
        hreach (hterms.trans_eq Magnitude.two_mul_room.symm),
      Curve.terms_le_of_drawable hproper hcount hcentre hn⟩
    have hnumerator : (-b).isFinite = true := (Binary64.isFinite_neg b).trans hb
    rw [Derivation.isFinite_quotient_iff hzero hdelta hnumerator, Binary64.toRat_neg, abs_neg]

/-- The plot of `x² - 4x + 3 = 0`: seven to each side of zero there is room. -/
theorem plot_drawable_two_roots : ∃ w points, Settings.default.IsValid ∧
    solveWith .default "x^2-4x+3=0" none .quadratic = .ok w ∧ w.plot = some points ∧
      Curve.Drawable points := by
  have hplotted : ((solveWith .default "x^2-4x+3=0" none .quadratic).toOption.bind
      (·.plot)).any (fun _ => true) = true := by
    decide +kernel
  obtain ⟨w, points, hw, hplot, -⟩ := Worked.exists_plot hplotted
  obtain ⟨a, b, c, v, centre, he, hcentre, -, -, -, hdrawable, -⟩ :=
    plot_drawable Settings.isValid_default hw hplot
  have hread : Worked.classified (Worked.canonical "x^2-4x+3=0" none .quadratic) .quadratic =
      .ok ⟨.quadratic 1 (-4) 3, 'x'⟩ := by
    decide +kernel
  have hvertex : Curve.vertex? 1 (-4) = some 2 := by decide +kernel
  rw [hread, Except.ok.injEq, Equation.mk.injEq, Coefficients.quadratic.injEq] at he
  obtain ⟨⟨rfl, rfl, rfl⟩, -⟩ := he
  rw [hvertex, Option.some_inj] at hcentre
  subst hcentre
  have hreach : Curve.reach Settings.default.window 2 = 7 := by
    rw [Curve.reach, Binary64.toRat_two, abs_two]
    exact (congrArg (2 + ·) (Binary64.toRat_lit 5 (by decide))).trans (by norm_num only)
  have hterms : Curve.terms 1 (-4) 3 (2 * 7) = 255 := by
    rw [Curve.terms, Binary64.toRat_one, Binary64.toRat_neg, Binary64.toRat_lit 4 (by decide),
      Binary64.toRat_lit 3 (by decide)]
    norm_num
  have hroom : (255 : ℚ) ≤ 2 ^ 8 := by norm_num only
  rw [hreach, hterms] at hdrawable
  refine ⟨w, points, Settings.isValid_default, hw, hplot, hdrawable Binary64.isFinite_two ?_ ?_⟩
  · exact le_trans (by norm_num only) (hroom.trans (pow_le_pow_right₀ one_le_two (by decide)))
  · exact hroom.trans (pow_le_pow_right₀ one_le_two (by decide))

/-- There are plots that cannot be drawn. Across a wide window the samples of `x² - 1` are infinite;
in the default window some of a parabola that is steep enough are, and those of one without a real
root whose vertex is out of range. -/
theorem plot_not_drawable :
    (∃ s w points, s = { Settings.default with
        window := ⟨.ofDecimal false 1 200, .ofDecimal false 1 199⟩ } ∧ s.IsValid ∧
      solveWith s "x^2-1=0" none .quadratic = .ok w ∧ w.plot = some points ∧
      ¬ Curve.Drawable points) ∧
    (∃ a : Binary64, a = .ofDecimal false 4 307 ∧
      (Derivation.quadratic a 0 0 'x').solution = .values [0] ∧
      ¬ Curve.Drawable (Curve.samples Settings.default.window a 0 0)) ∧
    ∃ a b c : Binary64, a = .ofDecimal false 5 (-324) ∧ b = .ofDecimal false 5 (-8) ∧
      c = .ofDecimal false 17 307 ∧
      (Derivation.quadratic a b c 'x').solution = .degenerate .noRealSolution ∧
      ¬ Curve.Drawable (Curve.samples Settings.default.window a b c) := by
  refine ⟨?_, ⟨_, rfl, by decide +kernel⟩, _, _, _, rfl, rfl, rfl, by decide +kernel⟩
  have hplotted : ((solveWith { Settings.default with
      window := ⟨.ofDecimal false 1 200, .ofDecimal false 1 199⟩ } "x^2-1=0" none
      .quadratic).toOption.bind (·.plot)).any (fun points => ¬ Curve.Drawable points) = true := by
    decide +kernel
  obtain ⟨w, points, hw, hplot, hinfinite⟩ := Worked.exists_plot hplotted
  exact ⟨_, w, points, rfl, Settings.isValid_iff_invalid?.mpr (by decide +kernel), hw, hplot,
    of_decide_eq_true hinfinite⟩

end WorkedEquations
