/-
What a derivation says, of the numbers as it shows them.

Branches are taken on exact numbers, and steps show rounded ones. A step that
compares its numbers holds on screen as far as rounding leaves the difference
that it speaks of.

What a derivation knows of the numbers in such a step
(`Derivation.linear_founded`, `Derivation.quadratic_founded`) is enough for the
step to hold on screen, exactly if what it speaks of is not hidden by rounding
(`Step.holdsOnScreen_iff`). The shown discriminant has the sign of the branch
that is taken exactly if it is not rounded away (`agrees_iff`).
`derivation_on_screen` has both for every equation that is taken.
-/
import WorkedEquations.Proofs.Display.Rounded
import WorkedEquations.Proofs.Solution.Decisive

namespace WorkedEquations

open Display

/-! ## Steps that compare their numbers -/

namespace Step

/-- What the step says holds of its numbers. -/
def Founded : Step → Prop
  | .alwaysHolds b c _ => b.isFinite = true ∧ c.isFinite = true ∧ b.toRat = c.toRat
  | .neverHolds b c _ => b.isFinite = true ∧ c.isFinite = true ∧ b.toRat ≠ c.toRat
  | .divide a _ _ _ => a.isFinite = true ∧ a.toRat ≠ 0
  | .negativeDiscriminant delta _ => delta.isFinite = true ∧ delta.toRat < 0
  | .positiveDiscriminant delta => delta.isFinite = true ∧ 0 < delta.toRat
  | _ => True

/-- What the step says holds of its numbers as its line shows them. -/
def HoldsOnScreen (places : Nat) : Step → Prop
  | .alwaysHolds b c _ => number places b = number places c
  | .neverHolds b c _ => number places b ≠ number places c
  | .divide a _ _ _ => number places a ≠ "0"
  | .negativeDiscriminant delta _ => (number places delta).toList.head? = some '-'
  | .positiveDiscriminant delta => PositiveNumeral (number places delta)
  | _ => True

/-- Rounding hides what the step speaks of: two numbers within a step of the last place are rounded
to one, or a number is rounded to zero. -/
def Hidden (places : Nat) : Step → Prop
  | .neverHolds b c _ =>
    |b.toRat - c.toRat| ≤ 1 / 10 ^ places ∧ shownValue places b = shownValue places c
  | .divide a _ _ _ => RoundsAway places a
  | .negativeDiscriminant delta _ | .positiveDiscriminant delta => RoundsAway places delta
  | _ => False

/-- **A step that is founded holds on screen,** unless rounding hides what it speaks of. -/
theorem holdsOnScreen_iff (places : Nat) {step : Step} (h : step.Founded) :
    step.HoldsOnScreen places ↔ ¬ step.Hidden places := by
  cases step with
  | alwaysHolds b c =>
    obtain ⟨hb, hc, heq⟩ := h
    exact iff_of_true (number_eq_of_toRat_eq places hb hc heq) not_false
  | neverHolds b c =>
    obtain ⟨hb, hc, -⟩ := h
    rw [HoldsOnScreen, Hidden, ← number_eq_number_iff places hb hc, ne_eq, not_iff_not]
    exact ⟨fun h => ⟨abs_sub_le_of_number_eq places hb hc h, h⟩, And.right⟩
  | divide a =>
    obtain ⟨ha, h0⟩ := h
    rw [HoldsOnScreen, Hidden, RoundsAway, ne_eq, number_eq_zero_iff places ha,
      shownValue_eq_zero_iff places ha, and_iff_right h0]
  | negativeDiscriminant delta =>
    obtain ⟨hdelta, hneg⟩ := h
    rw [HoldsOnScreen, Hidden, head?_number_iff places hdelta, ← sign_shownValue_eq_iff places hdelta,
      sign_neg hneg, sign_eq_neg_one_iff]
  | positiveDiscriminant delta =>
    obtain ⟨hdelta, hpos⟩ := h
    rw [HoldsOnScreen, Hidden, positiveNumeral_number_iff places hdelta,
      ← sign_shownValue_eq_iff places hdelta, sign_pos hpos, sign_eq_one_iff]
  | _ => simp [HoldsOnScreen, Hidden]

end Step

/-! ## What derivations know -/

namespace Derivation

theorem mem_finishing {xs : List Binary64} {what : Quantity} {steps : List Step} {step : Step}
    (h : step ∈ steps) : step ∈ (finishing xs what steps).steps := by
  unfold finishing
  split
  · exact h
  · exact List.mem_append_left _ h

theorem forall_mem_finishing {P : Step → Prop} {xs : List Binary64} {what : Quantity}
    {steps : List Step} (hsteps : ∀ step ∈ steps, P step) (hlast : P (.notFinite what)) :
    ∀ step ∈ (finishing xs what steps).steps, P step := by
  unfold finishing
  split
  · exact hsteps
  · exact List.forall_mem_append.mpr ⟨hsteps, List.forall_mem_singleton.mpr hlast⟩

variable {a b c : Binary64} (v : Char)

theorem moveConstant_founded (rest : Binary64) : (moveConstant a b c rest v).Founded := by
  unfold moveConstant
  split_ifs <;> trivial

theorem linear_founded (ha : a.isFinite = true) (hb : b.isFinite = true) (hc : c.isFinite = true) :
    ∀ step ∈ (linear a b c v).steps, step.Founded := by
  have hequals := Binary64.equals_iff_toRat hb hc
  unfold linear
  simp only []
  split_ifs with h0 hbc hrest
  · simp [degenerate, Step.Founded, hb, hc, hequals.mp hbc]
  · simp [degenerate, Step.Founded, hb, hc, mt hequals.mpr hbc]
  · refine forall_mem_finishing ?_ trivial
    have hne := Binary64.toRat_ne_zero ha (by simpa using h0)
    exact List.forall_mem_cons.mpr ⟨trivial, List.forall_mem_cons.mpr
      ⟨moveConstant_founded v _, List.forall_mem_singleton.mpr ⟨ha, hne⟩⟩⟩
  · simp [notFinite, degenerate, Step.Founded]

theorem quadratic_founded (a b c : Binary64) : ∀ step ∈ (quadratic a b c v).steps, step.Founded := by
  unfold quadratic
  simp only []
  split_ifs with h0 hdelta hneg hzero
  · simp [degenerate, Step.Founded]
  · simp [notFinite, degenerate, Step.Founded]
  · have hfinite : (discriminant a b c).isFinite = true := by simpa using hdelta
    simp [degenerate, Step.Founded, hfinite, (Binary64.lt_zero_iff_toRat hfinite).mp hneg]
  · refine forall_mem_finishing ?_ trivial
    simp [Step.Founded]
  · refine forall_mem_finishing ?_ trivial
    have hfinite : (discriminant a b c).isFinite = true := by simpa using hdelta
    simp [Step.Founded, hfinite, Binary64.toRat_pos hfinite hneg (by simpa using hzero)]

theorem system_founded (r s : Row) : ∀ step ∈ (system r s).steps, step.Founded := by
  unfold system
  simp only []
  split_ifs
  · simp [notFinite, degenerate, Step.Founded]
  · simp [degenerate, Step.Founded]
  · refine forall_mem_finishing ?_ trivial
    simp [Step.Founded]

theorem discriminant_mem_steps (a b c : Binary64) :
    .discriminant a b c (discriminant a b c) ∈ (quadratic a b c v).steps := by
  unfold quadratic
  simp only []
  split_ifs
  · simp [degenerate]
  · simp [notFinite, degenerate]
  · simp [degenerate]
  · exact mem_finishing (by simp)
  · exact mem_finishing (by simp)

end Derivation

theorem Equation.Taken.founded {family : Family} {e : Equation} (h : e.Taken family) :
    ∀ step ∈ e.derive.steps, step.Founded := by
  cases h with
  | linear ha hb hc _ => exact Derivation.linear_founded _ ha hb hc
  | quadratic => exact Derivation.quadratic_founded _ _ _ _
  | system => exact Derivation.system_founded _ _

/-! ## The discriminant and the branch -/

/-- The shown discriminant and the outcome agree: it is zero exactly if there is one value, it has a
minus exactly if there is no real solution, and it is a positive numeral exactly if there are two. -/
structure Agrees (shown : String) (solution : Solution) : Prop where
  zero : shown = "0" ↔ ∃ x, solution = .values [x]
  minus : shown.toList.head? = some '-' ↔ solution = .degenerate .noRealSolution
  positive : PositiveNumeral shown ↔ ∃ x₁ x₂, solution = .values [x₁, x₂]

namespace Derivation
variable {a b c : Binary64} {v : Char}

theorem quadratic_branch (ha : a.isZero = false)
    (hrange : (quadratic a b c v).solution ≠ .degenerate .outOfRange) :
    (discriminant a b c).isFinite = true ∧
      ((discriminant a b c).toRat = 0 ∧ (∃ x, (quadratic a b c v).solution = .values [x]) ∨
        (discriminant a b c).toRat < 0 ∧ (quadratic a b c v).solution = .degenerate .noRealSolution ∨
        0 < (discriminant a b c).toRat ∧ ∃ x₁ x₂, (quadratic a b c v).solution = .values [x₁, x₂]) := by
  match h : (quadratic a b c v).solution with
  | .values xs =>
    obtain ⟨-, hfinite, -, ⟨hzero, rfl⟩ | ⟨hpos, rfl⟩⟩ := values_of_quadratic h
    · exact ⟨hfinite, .inl ⟨hzero, _, rfl⟩⟩
    · exact ⟨hfinite, .inr (.inr ⟨hpos, _, _, rfl⟩)⟩
  | .degenerate kind =>
    have hend := quadratic_ending a b c v
    generalize quadratic a b c v = d at h hend hrange
    cases hend with
    | noRealSolution _ _ hdelta hfinite hneg =>
      cases h
      subst hdelta
      exact ⟨hfinite, .inr (.inl ⟨(Binary64.lt_zero_iff_toRat hfinite).mp hneg, rfl⟩)⟩
    | notQuadratic _ h0 => cases h0.symm.trans ha
    | notFinite => exact absurd rfl hrange
    | repeatedRoot | roots => cases h

/-- **The shown discriminant and the outcome agree,** unless the discriminant is rounded away. -/
theorem agrees_iff (places : Nat) (ha : a.isZero = false)
    (hrange : (quadratic a b c v).solution ≠ .degenerate .outOfRange) :
    Agrees (number places (discriminant a b c)) (quadratic a b c v).solution ↔
      ¬ RoundsAway places (discriminant a b c) := by
  obtain ⟨hfinite, hbranch⟩ := quadratic_branch ha hrange
  have hagrees : Agrees (number places (discriminant a b c)) (quadratic a b c v).solution ↔
      (shownValue places (discriminant a b c) = 0 ↔ ∃ x, (quadratic a b c v).solution = .values [x]) ∧
      (shownValue places (discriminant a b c) < 0 ↔
        (quadratic a b c v).solution = .degenerate .noRealSolution) ∧
      (0 < shownValue places (discriminant a b c) ↔
        ∃ x₁ x₂, (quadratic a b c v).solution = .values [x₁, x₂]) := by
    rw [← number_eq_zero_iff places hfinite, ← head?_number_iff places hfinite,
      ← positiveNumeral_number_iff places hfinite]
    exact ⟨fun h => ⟨h.zero, h.minus, h.positive⟩, fun h => ⟨h.1, h.2.1, h.2.2⟩⟩
  rw [hagrees, ← sign_shownValue_eq_iff places hfinite]
  generalize shownValue places (discriminant a b c) = q
  rcases hbranch with ⟨h0, x, hx⟩ | ⟨hneg, hx⟩ | ⟨hpos, x₁, x₂, hx⟩
  · rw [h0, sign_zero, sign_eq_zero_iff, hx]
    refine ⟨fun h => h.1.mpr ⟨x, rfl⟩, ?_⟩
    rintro rfl
    simp
  · rw [sign_neg hneg, sign_eq_neg_one_iff, hx]
    refine ⟨fun h => h.2.1.mpr rfl, fun h => ?_⟩
    simp [h, h.ne, h.not_gt]
  · rw [sign_pos hpos, sign_eq_one_iff, hx]
    refine ⟨fun h => h.2.2.mpr ⟨x₁, x₂, rfl⟩, fun h => ?_⟩
    simp [h, h.ne', h.not_gt]

end Derivation

/-- **What a derivation says on screen,** for an equation that is taken and any number of places. A step
that compares its numbers holds of them as they are shown unless rounding hides what it speaks of. The
shown discriminant agrees with the outcome unless it is rounded away, and it is shown as zero up to half
a step of the last place. -/
theorem derivation_on_screen {texts : String × Option String} {family : Family} {e : Equation}
    (h : Worked.classified texts family = .ok e) (places : Nat) :
    (∀ step ∈ e.derive.steps, step.HoldsOnScreen places ↔ ¬ step.Hidden places) ∧
      ∀ a b c, e.coefficients = .quadratic a b c → a.isZero = false →
        e.derive.solution ≠ .degenerate .outOfRange →
        .discriminant a b c (discriminant a b c) ∈ e.derive.steps ∧
          (number places (discriminant a b c) = "0" ↔
            |(discriminant a b c).toRat| * 10 ^ places ≤ 1 / 2) ∧
          (Agrees (number places (discriminant a b c)) e.derive.solution ↔
            ¬ RoundsAway places (discriminant a b c)) := by
  have hfounded := (Worked.taken_of_classified h).founded
  refine ⟨fun step hstep => step.holdsOnScreen_iff places (hfounded step hstep), ?_⟩
  rintro a b c hquadratic ha hrange
  obtain ⟨coefficients, v⟩ := e
  obtain rfl : coefficients = .quadratic a b c := hquadratic
  refine ⟨Derivation.discriminant_mem_steps v a b c, ?_, Derivation.agrees_iff places ha hrange⟩
  have hfinite := (Derivation.quadratic_branch ha hrange).1
  rw [number_eq_zero_iff places hfinite, shownValue_eq_zero_iff places hfinite]

/-- Two roots, with four for the discriminant. -/
theorem derivation_on_screen_two_roots :
    ∃ e : Equation, Worked.classified ("x^2-4x+3=0", none) .quadratic = .ok e ∧
      Agrees (number 3 (discriminant 1 (-4) 3)) e.derive.solution := by
  obtain ⟨e, he, rfl⟩ : ∃ e, Worked.classified ("x^2-4x+3=0", none) .quadratic = .ok e ∧
      e = ⟨.quadratic 1 (-4) 3, 'x'⟩ := exists_ok_of_any (by decide +kernel)
  have hsolution : (Equation.derive ⟨.quadratic 1 (-4) 3, 'x'⟩).solution = .values [3, 1] := by
    decide +kernel
  refine ⟨_, he, ((derivation_on_screen he 3).2 1 (-4) 3 rfl (by decide +kernel) ?_).2.2.mpr ?_⟩
  · rw [hsolution]
    exact nofun
  · have hdelta : discriminant 1 (-4) 3 = 4 := by decide +kernel
    rw [hdelta, RoundsAway, Binary64.toRat_lit 4 (by decide)]
    norm_num

/-- Below half a step of the last place the lines on screen contradict each other: a zero that is greater
than zero, a zero that differs from zero, a division by zero. -/
theorem hidden_on_screen :
    (number 3 (discriminant 1 (.ofDecimal true 1 (-2)) 0) = "0" ∧
      ∃ w, solve "x^2-0.01x=0" none .quadratic = .ok w ∧
        w.solution = .values [.ofDecimal false 1 (-2), 0] ∧
        "Δ = 0 > 0: the equation has two distinct real roots" ∈ w.steps) ∧
    (∃ w, solve "0x+0.0001=0.0002" none .linear = .ok w ∧
      "0 ≠ 0 for any x: no solution" ∈ w.steps) ∧
    ∃ w, solve "0.0001x=1" none .linear = .ok w ∧
      "Divide both sides by 0: x = 1 / 0 = 10000" ∈ w.steps := by
  refine ⟨⟨by decide +kernel, ?_⟩, ?_, ?_⟩
  · exact exists_ok_of_any (by decide +kernel)
  · exact exists_ok_of_any (by decide +kernel)
  · exact exists_ok_of_any (by decide +kernel)

end WorkedEquations
