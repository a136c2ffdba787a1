/-
How a derivation ends, for coefficients that may be any numbers, infinities
and NaN among them.

`Ending e d` has one case for each way: what the outcome is, what is known of
the coefficients then, and which steps were taken last. Everything said of all
derivations is said of these cases.

There is no other way (`Equation.derive_ending`). Values come in the right
number, finite and without a minus before a zero, and a degenerate outcome is
one of the family's own (`Ending.outcome`). The last step speaks of the range
exactly if the outcome does (`Ending.tellsRange_iff`).
-/
import WorkedEquations.Proofs.Display.Shown
import WorkedEquations.Proofs.Equation.Taken

namespace WorkedEquations

/-! ## The ways to end -/

/-- A value as it is reported: a finite number, without a minus before a zero. -/
def Binary64.Reported (x : Binary64) : Prop := x.isFinite = true ∧ x ≠ .signedZero true

/-- How a derivation in an equation ends: what decided it, the outcome and the steps taken last. -/
inductive Ending : Equation → Derivation → Prop where
  | infinitelyMany {a b c : Binary64} {v : Char} (known : List Step) :
      a.isZero = true → b.equals c = true →
      Ending ⟨.linear a b c, v⟩
        (.degenerate .infinitelyManySolutions (known ++ [.alwaysHolds b c v]))
  | noSolution {a b c : Binary64} {v : Char} (known : List Step) :
      a.isZero = true → b.equals c = false →
      Ending ⟨.linear a b c, v⟩ (.degenerate .noSolution (known ++ [.neverHolds b c v]))
  | divided {a b c rest x : Binary64} {v : Char} (known : List Step) :
      x.Reported → a.isZero = false → rest = c - b → rest.isFinite = true →
      x = Derivation.quotient rest a →
      Ending ⟨.linear a b c, v⟩ ⟨.values [x], known ++ [.divide a rest x v]⟩
  | notQuadratic {a b c : Binary64} {v : Char} (known : List Step) :
      a.isZero = true →
      Ending ⟨.quadratic a b c, v⟩ (.degenerate .notQuadratic (known ++ [.notQuadratic]))
  | noRealSolution {a b c delta : Binary64} {v : Char} (known : List Step) :
      a.isZero = false → delta = discriminant a b c → delta.isFinite = true → delta < 0 →
      Ending ⟨.quadratic a b c, v⟩
        (.degenerate .noRealSolution (known ++ [.negativeDiscriminant delta v]))
  | repeatedRoot {a b c x : Binary64} {v : Char} (known : List Step) :
      x.Reported → a.isZero = false → (discriminant a b c).isZero = true →
      x = Derivation.quotient (-b) (2 * a) →
      Ending ⟨.quadratic a b c, v⟩ ⟨.values [x], known ++ [.repeatedRoot (-b) (2 * a) x v]⟩
  | roots {a b c delta root x₁ x₂ : Binary64} {v : Char} (known : List Step) :
      x₁.Reported → x₂.Reported → a.isZero = false → delta = discriminant a b c →
      delta.isFinite = true → ¬ delta < 0 → delta.isZero = false → root = delta.sqrt →
      x₁ = Derivation.quotient (-b + root) (2 * a) → x₂ = Derivation.quotient (-b - root) (2 * a) →
      Ending ⟨.quadratic a b c, v⟩ ⟨.values [x₁, x₂], known ++
        [.branchRoot .plus (-b) root (2 * a) x₁ v, .branchRoot .minus (-b) root (2 * a) x₂ v]⟩
  | zeroDeterminant {r s : Row} {v : Char} (known : List Step) :
      (determinant r s).isZero = true →
      Ending ⟨.system r s, v⟩ (.degenerate .inconsistentOrDependent (known ++ [.zeroDeterminant]))
  | ratios {r s : Row} {v : Char} {dx dy d x y : Binary64} (known : List Step) :
      x.Reported → y.Reported → d = determinant r s → d.isFinite = true → d.isZero = false →
      dx = crossDifference r.c r.b s.c s.b → dy = crossDifference r.a r.c s.a s.c →
      x = Derivation.quotient dx d → y = Derivation.quotient dy d →
      Ending ⟨.system r s, v⟩ ⟨.values [x, y], known ++ [.xRatio dx d x, .yRatio dy d y]⟩
  | notFinite {e : Equation} (what : Quantity) (known : List Step) :
      Ending e (.notFinite what known)

namespace Derivation

@[simp] theorem degenerate_solution (kind : Degeneracy) (steps : List Step) :
    (degenerate kind steps).solution = .degenerate kind := rfl

@[simp] theorem notFinite_solution (what : Quantity) (steps : List Step) :
    (notFinite what steps).solution = .degenerate .outOfRange := rfl

/-- **No quotient is a negative zero.** -/
theorem reported_quotient {x y : Binary64} (h : (quotient x y).isFinite = true) :
    (quotient x y).Reported := ⟨h, Binary64.add_zero_ne_signedZero _⟩

theorem finishing_ending {e : Equation} {xs : List Binary64} {what : Quantity} {steps : List Step}
    (h : (∀ x ∈ xs, x.isFinite = true) → Ending e ⟨.values xs, steps⟩) :
    Ending e (finishing xs what steps) := by
  unfold finishing
  split
  next hfinite => exact h (List.all_eq_true.mp hfinite)
  next => exact .notFinite what steps

variable (a b c : Binary64) (v : Char)

theorem linear_ending : Ending ⟨.linear a b c, v⟩ (linear a b c v) := by
  unfold linear
  simp only []
  split_ifs with ha hbc hrest
  · exact .infinitelyMany [_, _] ha hbc
  · exact .noSolution [_, _] ha (by simpa using hbc)
  · refine finishing_ending fun h => .divided [_, _] ?_ (by simpa using ha) rfl hrest rfl
    exact reported_quotient (h _ (by simp))
  · exact .notFinite _ _

theorem quadratic_ending : Ending ⟨.quadratic a b c, v⟩ (quadratic a b c v) := by
  unfold quadratic
  simp only []
  -- A discriminant that is NaN is not finite, so the later comparisons are between numbers.
  split_ifs with ha hdelta hneg hzero
  · exact .notQuadratic _ ha
  · exact .notFinite _ _
  · exact .noRealSolution _ (by simpa using ha) rfl (by simpa using hdelta) hneg
  · refine finishing_ending fun h => .repeatedRoot [_, _, _, _] ?_ (by simpa using ha) hzero rfl
    exact reported_quotient (h _ (by simp))
  · refine finishing_ending fun h => .roots [_, _, _, _, _] ?_ ?_ (by simpa using ha) rfl
      (by simpa using hdelta) hneg (by simpa using hzero) rfl rfl rfl
    · exact reported_quotient (h _ (by simp))
    · exact reported_quotient (h _ (by simp))

theorem system_ending (r s : Row) : Ending ⟨.system r s, v⟩ (system r s) := by
  unfold system
  simp only []
  split_ifs with hd hzero
  · exact .notFinite _ _
  · exact .zeroDeterminant _ hzero
  · refine finishing_ending fun h => .ratios [_, _, _] ?_ ?_ rfl (by simpa using hd)
      (by simpa using hzero) rfl rfl rfl rfl
    · exact reported_quotient (h _ (by simp))
    · exact reported_quotient (h _ (by simp))

end Derivation

/-- **Every derivation ends in one of these ways.** -/
theorem Equation.derive_ending (e : Equation) : Ending e e.derive := by
  obtain ⟨coefficients, v⟩ := e
  cases coefficients with
  | linear a b c => exact Derivation.linear_ending a b c v
  | quadratic a b c => exact Derivation.quadratic_ending a b c v
  | system r s => exact Derivation.system_ending v r s

/-! ## Outcomes -/

namespace Family

/-- How many values an equation of the family can have. -/
def valueCounts : Family → List Nat
  | .linear => [1]
  | .quadratic => [1, 2]
  | .system => [2]

/-- The degenerate outcomes of the family. -/
def degeneracies : Family → List Degeneracy
  | .linear => [.infinitelyManySolutions, .noSolution, .outOfRange]
  | .quadratic => [.notQuadratic, .noRealSolution, .outOfRange]
  | .system => [.inconsistentOrDependent, .outOfRange]

/-- The solution is an outcome of the family. -/
def Outcome (family : Family) : Solution → Prop
  | .values xs => xs.length ∈ family.valueCounts ∧ ∀ x ∈ xs, x.Reported
  | .degenerate kind => kind ∈ family.degeneracies

theorem outOfRange_mem_degeneracies (family : Family) :
    Degeneracy.outOfRange ∈ family.degeneracies := by
  cases family <;> decide

end Family

/-- What the step says that ends a derivation for want of a finite number. -/
def rangeNotice : String := "is not a finite number: the coefficients are out of numeric range"

/-- The last step speaks of the range: it ends with the notice. -/
def Derivation.TellsRange (places : Nat) (d : Derivation) : Prop :=
  ∃ line ∈ (d.lines places).getLast?, rangeNotice.toList <:+ line.toList

namespace Ending
variable {e : Equation} {d : Derivation}

theorem outcome (h : Ending e d) : e.family.Outcome d.solution := by
  cases h with
  | infinitelyMany | noSolution | notQuadratic | noRealSolution | zeroDeterminant =>
    exact List.mem_of_elem_eq_true rfl
  | divided _ hx | repeatedRoot _ hx =>
    exact ⟨List.mem_of_elem_eq_true rfl, by simpa using hx⟩
  | roots _ hx hy | ratios _ hx hy =>
    exact ⟨List.mem_of_elem_eq_true rfl, by simpa using ⟨hx, hy⟩⟩
  | notFinite => exact e.family.outOfRange_mem_degeneracies

theorem lines_ne_nil (h : Ending e d) (places : Nat) : d.lines places ≠ [] := by
  cases h <;> simp [Derivation.lines, Derivation.notFinite, Derivation.degenerate]

end Ending

/-! ## What the last step says -/

section
variable {places : Nat}

/-- A line that ends with another character than the notice does not speak of the range. -/
theorem not_rangeNotice {line : String} {c : Char} (hline : c ∈ line.toList.getLast?)
    (hc : c ≠ 'e') : ¬ rangeNotice.toList <:+ line.toList := by
  rintro ⟨before, h⟩
  have hlast : rangeNotice.toList.getLast? = some 'e' := by decide
  rw [← h, List.getLast?_append, hlast, Option.some_or] at hline
  exact hc (Option.some_inj.mp hline).symm

theorem not_rangeNotice_append {text : String} {c : Char} (htext : c ∈ text.toList.getLast?)
    (hc : c ≠ 'e') (before : String) : ¬ rangeNotice.toList <:+ (before ++ text).toList := by
  refine not_rangeNotice ?_ hc
  rw [String.toList_append, List.getLast?_append, htext, Option.some_or]
  rfl

theorem not_rangeNotice_number {x : Binary64} (hx : x.isFinite = true) (before : String) :
    ¬ rangeNotice.toList <:+ (before ++ Display.number places x).toList := by
  obtain ⟨c, hc, hlow⟩ := Display.exists_getLast?_number places hx
  refine not_rangeNotice_append hc ?_ before
  rintro rfl
  revert hlow
  decide

theorem Step.rangeNotice_notFinite (what : Quantity) :
    rangeNotice.toList <:+ ((Step.notFinite what).text places).toList := by
  have htext : (Step.notFinite what).text places =
      what.text places ++ " is not a finite number: the coefficients are out of numeric range" := rfl
  have hnotice : " is not a finite number: the coefficients are out of numeric range" =
      " " ++ rangeNotice := by decide
  rw [htext, hnotice, ← String.append_assoc, String.toList_append]
  exact List.suffix_append _ _

namespace Derivation

/-- Only the last step counts. -/
theorem tellsRange_iff {solution : Solution} {known : List Step} {last : Step} :
    (⟨solution, known ++ [last]⟩ : Derivation).TellsRange places ↔
      rangeNotice.toList <:+ (last.text places).toList := by
  simp [TellsRange, lines]

theorem tellsRange_iff_of_silent {solution : Solution} {known : List Step} {last : Step}
    (hlast : ¬ rangeNotice.toList <:+ (last.text places).toList)
    (hsolution : solution ≠ .degenerate .outOfRange) :
    (⟨solution, known ++ [last]⟩ : Derivation).TellsRange places ↔
      solution = .degenerate .outOfRange := by
  rw [tellsRange_iff]
  exact iff_of_false hlast hsolution

end Derivation

/-- **The last step speaks of the range exactly if the outcome does.** The other last steps end
with a number or with another letter. -/
theorem Ending.tellsRange_iff {e : Equation} {d : Derivation} (h : Ending e d) (places : Nat) :
    d.TellsRange places ↔ d.solution = .degenerate .outOfRange := by
  cases h with
  | infinitelyMany =>
    refine Derivation.tellsRange_iff_of_silent ?_ (by simp)
    exact not_rangeNotice_append (c := 's') (by decide) (by decide) _
  | noSolution | noRealSolution =>
    refine Derivation.tellsRange_iff_of_silent ?_ (by simp)
    exact not_rangeNotice_append (c := 'n') (by decide) (by decide) _
  | notQuadratic =>
    have hlast : 'c' ∈ (Step.notQuadratic.text 0).toList.getLast? := by decide
    exact Derivation.tellsRange_iff_of_silent (not_rangeNotice hlast (by decide)) (by simp)
  | zeroDeterminant =>
    have hlast : 't' ∈ (Step.zeroDeterminant.text 0).toList.getLast? := by decide
    exact Derivation.tellsRange_iff_of_silent (not_rangeNotice hlast (by decide)) (by simp)
  | divided _ hx | repeatedRoot _ hx =>
    exact Derivation.tellsRange_iff_of_silent (not_rangeNotice_number hx.1 _) (by simp)
  | roots _ _ hx | ratios _ _ hx =>
    rw [List.append_cons]
    exact Derivation.tellsRange_iff_of_silent (not_rangeNotice_number hx.1 _) (by simp)
  | notFinite what =>
    rw [Derivation.notFinite, Derivation.degenerate, Derivation.tellsRange_iff]
    exact iff_of_true (Step.rangeNotice_notFinite what) rfl

end

/-! ## Samples for a plot -/

/-- A parabola is plotted if its coefficients make one and stay in range. -/
theorem Ending.isSome_plotOf_iff {e : Equation} {d : Derivation} (h : Ending e d)
    (window : Window) : (Worked.plotOf window e.coefficients d.solution).isSome = true ↔
      e.family = .quadratic ∧ d.solution ≠ .degenerate .notQuadratic ∧
        d.solution ≠ .degenerate .outOfRange := by
  cases h with
  | infinitelyMany | noSolution | divided | zeroDeterminant | ratios =>
    simp [Worked.plotOf, Equation.family, Coefficients.family]
  | notQuadratic _ ha => simp [Worked.plotOf, ha]
  | noRealSolution _ ha | repeatedRoot _ _ ha | roots _ _ _ ha =>
    simp [Worked.plotOf, ha, Equation.family, Coefficients.family]
  | notFinite what known =>
    have hnone : Worked.plotOf window e.coefficients (.degenerate .outOfRange) = none := by
      cases e.coefficients <;> simp [Worked.plotOf]
    simp [hnone]

/-! ## The shape of every derivation -/

/-- **What every derivation is like,** whatever its coefficients: it has steps, its outcome is one
of its family, and the last step speaks of the range exactly if the outcome does. A worked equation
has samples for a plot exactly if it is a parabola whose numbers stayed in range. -/
theorem derive_outcome :
    (∀ (e : Equation) (places : Nat), e.derive.lines places ≠ [] ∧
      e.family.Outcome e.derive.solution ∧
      (e.derive.solution = .degenerate .outOfRange ↔ e.derive.TellsRange places)) ∧
    ∀ settings raw second family w, solveWith settings raw second family = .ok w →
      (w.plot.isSome = true ↔ family = .quadratic ∧ w.solution ≠ .degenerate .notQuadratic ∧
        w.solution ≠ .degenerate .outOfRange) := by
  constructor
  · intro e places
    have h := e.derive_ending
    exact ⟨h.lines_ne_nil places, h.outcome, (h.tellsRange_iff places).symm⟩
  · intro settings raw second family w hw
    obtain ⟨e, he, rfl⟩ := solveWith_eq_ok_iff.mp hw
    have hfamily := (Worked.taken_of_canonical he).family_eq
    have hplot := e.derive_ending.isSome_plotOf_iff settings.window
    rwa [hfamily] at hplot

/-- A parabola without a real root is plotted all the same. -/
theorem derive_outcome_no_root :
    ∃ w, solveWith .default "x^2+1=0" none .quadratic = .ok w ∧
      w.solution = .degenerate .noRealSolution ∧ w.plot.isSome = true := by
  have htaken : (Worked.classified (Worked.canonical "x^2+1=0" none .quadratic)
      .quadratic).isOk = true := by
    decide +kernel
  have hsolution : (Worked.classified (Worked.canonical "x^2+1=0" none .quadratic)
      .quadratic).toOption.map (·.derive.solution) = some (.degenerate .noRealSolution) := by
    decide +kernel
  obtain ⟨e, he⟩ := Worked.exists_of_isOk htaken
  have hw : solveWith .default "x^2+1=0" none .quadratic = .ok _ :=
    solveWith_eq_ok_iff.mpr ⟨e, he, rfl⟩
  have hkind : e.derive.solution = .degenerate .noRealSolution := by
    rw [he] at hsolution
    exact Option.some_inj.mp hsolution
  refine ⟨_, hw, hkind, (derive_outcome.2 _ _ _ _ _ hw).mpr ⟨rfl, ?_⟩⟩
  constructor <;> intro h <;> cases hkind.symm.trans h

end WorkedEquations
