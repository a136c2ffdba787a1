/-
Rewriting an equation without changing what it says leaves its solution as it
is, to the last bit: its rows the other way round, or every sign of a row or of
the whole equation changed.

The computed determinants change sign exactly, or stay zero; what decides
between the outcomes depends on magnitudes only; and the signs cancel in every
quotient.

Systems are in `Derivation.system_swap` and `Derivation.system_neg`, one
equation in `Derivation.linear_neg` and `Derivation.quadratic_neg`, where the
two roots of a quadratic change places.
-/
import WorkedEquations.Proofs.Binary64.Negation
import WorkedEquations.Proofs.Solution.Endings

namespace WorkedEquations

open Binary64 (Opposite)

/-- The row with every sign changed. -/
def Row.neg (r : Row) : Row := ⟨-r.a, -r.b, -r.c⟩

instance : Neg Row := ⟨Row.neg⟩

/-- The solution with its values the other way round. -/
def Solution.reverse : Solution → Solution
  | values xs => values xs.reverse
  | degenerate kind => degenerate kind

/-! ## What decides -/

theorem snapToZero_opposite {x y : Binary64} (h : Opposite x y) (scale : Binary64) :
    Opposite (snapToZero x scale) (snapToZero y scale) := by
  unfold snapToZero
  rw [h.abs_eq]
  split
  · exact .inr ⟨rfl, rfl⟩
  · exact h

theorem crossDifference_swap (p q r s : Binary64) :
    Opposite (crossDifference p q r s) (crossDifference r s p q) :=
  Binary64.sub_swap_opposite (p * s) (r * q)

theorem crossDifference_neg (p q r s : Binary64) :
    Opposite (crossDifference p q r s) (crossDifference (-p) (-q) r s) := by
  have h := Binary64.sub_opposite (p * s) (r * q)
  rwa [← Binary64.neg_mul, ← Binary64.mul_neg] at h

theorem determinant_swap (first second : Row) :
    Opposite (determinant first second) (determinant second first) := by
  unfold determinant
  rw [Binary64.greater_abs_comm (second.a * first.b)]
  exact snapToZero_opposite (crossDifference_swap _ _ _ _) _

theorem determinant_neg (first second : Row) :
    Opposite (determinant first second) (determinant (-first) second) := by
  have hscale : ((-first).a * second.b).abs.greater (second.a * (-first).b).abs =
      (first.a * second.b).abs.greater (second.a * first.b).abs := by
    change (-first.a * second.b).abs.greater (second.a * -first.b).abs = _
    rw [Binary64.neg_mul, Binary64.mul_neg, Binary64.abs_neg, Binary64.abs_neg]
  unfold determinant
  rw [hscale]
  exact snapToZero_opposite (crossDifference_neg _ _ _ _) _

/-- The discriminant has no odd power, so signs do not matter. -/
theorem discriminant_neg (a b c : Binary64) : discriminant (-a) (-b) (-c) = discriminant a b c := by
  unfold discriminant
  rw [Binary64.neg_mul b, Binary64.mul_neg b, Binary64.neg_neg, Binary64.mul_neg 4,
    Binary64.neg_mul (4 * a), Binary64.mul_neg (4 * a), Binary64.neg_neg]

/-! ## Solutions -/

namespace Derivation

theorem quotient_eq {x x' y y' : Binary64} (hx : Opposite x x') (hy : Opposite y y')
    (h : y.isZero = false) : quotient x' y' = quotient x y := by
  rcases hy with rfl | ⟨hzero, -⟩
  · exact hx.div_add_zero y
  · rw [hzero] at h
    cases h

theorem finishing_solution (xs : List Binary64) (what : Quantity) (steps : List Step) :
    (finishing xs what steps).solution =
      if xs.all Binary64.isFinite then .values xs else .degenerate .outOfRange := by
  unfold finishing
  split <;> rfl

theorem finishing_reverse (xs : List Binary64) (what : Quantity) (steps steps' : List Step) :
    (finishing xs.reverse what steps').solution = (finishing xs what steps).solution.reverse := by
  rw [finishing_solution, finishing_solution, List.all_reverse]
  split <;> rfl

/-- The solution of a system by its three determinants. -/
def cramer (d dx dy : Binary64) : Solution :=
  if !d.isFinite then .degenerate .outOfRange
  else if d.isZero then .degenerate .inconsistentOrDependent
  else if [quotient dx d, quotient dy d].all Binary64.isFinite then
    .values [quotient dx d, quotient dy d]
  else .degenerate .outOfRange

theorem system_solution (first second : Row) : (system first second).solution =
    cramer (determinant first second) (crossDifference first.c first.b second.c second.b)
      (crossDifference first.a first.c second.a second.c) := by
  simp only [system, cramer]
  split_ifs <;> simp_all [finishing_solution]

/-- **Opposite determinants give one solution.** -/
theorem cramer_opposite {d d' dx dx' dy dy' : Binary64} (hd : Opposite d d') (hx : Opposite dx dx')
    (hy : Opposite dy dy') : cramer d' dx' dy' = cramer d dx dy := by
  unfold cramer
  rw [hd.isFinite_eq, hd.isZero_eq]
  cases hzero : d.isZero with
  | true => rfl
  | false => rw [quotient_eq hx hd hzero, quotient_eq hy hd hzero]

theorem system_swap (first second : Row) :
    (system second first).solution = (system first second).solution := by
  rw [system_solution, system_solution]
  exact cramer_opposite (determinant_swap _ _) (crossDifference_swap _ _ _ _)
    (crossDifference_swap _ _ _ _)

theorem system_neg (first second : Row) :
    (system (-first) second).solution = (system first second).solution := by
  rw [system_solution, system_solution]
  exact cramer_opposite (determinant_neg _ _) (crossDifference_neg _ _ _ _)
    (crossDifference_neg _ _ _ _)

theorem quotient_neg {x x' : Binary64} (h : Opposite x x') (y : Binary64) :
    quotient x' (-y) = quotient x y := h.div_add_zero y

theorem linear_neg (a b c : Binary64) (v : Char) :
    (linear (-a) (-b) (-c) v).solution = (linear a b c v).solution := by
  have hrest : Opposite (c - b) (-c - -b) := Binary64.sub_opposite c b
  simp only [linear, Binary64.isZero_neg, Binary64.equals_neg, hrest.isFinite_eq]
  split_ifs
  · rfl
  · rfl
  · rw [finishing_solution, finishing_solution, quotient_neg hrest]
  · rfl

/-- **The quadratic with every sign changed** has the same roots; of two, the branch with the plus
gives what the branch with the minus gave. -/
theorem quadratic_neg (a b c : Binary64) (v : Char) :
    (quadratic (-a) (-b) (-c) v).solution = (quadratic a b c v).solution.reverse := by
  simp only [quadratic, Binary64.isZero_neg, discriminant_neg, Binary64.mul_neg 2]
  generalize discriminant a b c = delta
  split_ifs
  · rfl
  · rfl
  · rfl
  · have hx := quotient_neg (Binary64.opposite_neg (-b)) (2 * a)
    rw [hx]
    exact finishing_reverse [_] _ _ _
  · have hplus : Opposite (-b - delta.sqrt) (- -b + delta.sqrt) := by
      have h := Binary64.add_opposite (-b) (-delta.sqrt)
      rwa [Binary64.neg_neg delta.sqrt] at h
    have hminus : Opposite (-b + delta.sqrt) (- -b - delta.sqrt) :=
      Binary64.add_opposite (-b) delta.sqrt
    rw [quotient_neg hplus, quotient_neg hminus]
    exact finishing_reverse [_, _] _ _ _

end Derivation

/-! ## Texts -/

theorem toOption_solveWith_system (settings : Settings) (first second : String) :
    (solveWith settings first (some second) .system).toOption.map (·.solution) =
      (classifySystem (normalize first) (normalize second)).toOption.map (·.derive.solution) := by
  simp only [solveWith, Worked.classified, Worked.canonical, Option.map_some, Option.getD_some]
  cases classifySystem (normalize first) (normalize second) <;> rfl

/-- Two texts are a system in either order, with the rows in that order. -/
theorem classifySystem_swap (first second : String) :
    (classifySystem second first).toOption.map (·.derive.solution) =
      (classifySystem first second).toOption.map (·.derive.solution) := by
  cases h : classifySystem first second with
  | ok e =>
    obtain ⟨r, s, hr, hs, rfl⟩ := classifySystem_eq_ok_iff.mp h
    have hswap := classifySystem_eq_ok_iff.mpr ⟨s, r, hs, hr, rfl⟩
    rw [hswap]
    exact congrArg some (Derivation.system_swap r s)
  | error refusal =>
    cases h' : classifySystem second first with
    | ok e =>
      obtain ⟨s, r, hs, hr, rfl⟩ := classifySystem_eq_ok_iff.mp h'
      rw [classifySystem_eq_ok_iff.mpr ⟨r, s, hr, hs, rfl⟩] at h
      cases h
    | error refusal' => rfl

/-- **Symmetry of the solutions.** A system keeps its solution when its rows change places or a row
changes all its signs, also when it is solved from its texts; so does a linear equation with all
signs changed, and a quadratic, whose two roots then change places. -/
theorem solution_symmetry :
    (∀ first second : Row,
      (Derivation.system second first).solution = (Derivation.system first second).solution ∧
      (Derivation.system (-first) second).solution = (Derivation.system first second).solution ∧
      (Derivation.system first (-second)).solution = (Derivation.system first second).solution) ∧
    (∀ settings first second,
      (solveWith settings second (some first) .system).toOption.map (·.solution) =
        (solveWith settings first (some second) .system).toOption.map (·.solution)) ∧
    (∀ a b c v,
      (Derivation.linear (-a) (-b) (-c) v).solution = (Derivation.linear a b c v).solution) ∧
    ∀ a b c v, (Derivation.quadratic (-a) (-b) (-c) v).solution =
      (Derivation.quadratic a b c v).solution.reverse := by
  refine ⟨fun first second => ⟨?_, ?_, ?_⟩, fun settings first second => ?_, ?_, ?_⟩
  · exact Derivation.system_swap first second
  · exact Derivation.system_neg first second
  · calc (Derivation.system first (-second)).solution
        = (Derivation.system (-second) first).solution := Derivation.system_swap _ _
      _ = (Derivation.system second first).solution := Derivation.system_neg _ _
      _ = (Derivation.system first second).solution := Derivation.system_swap _ _
  · rw [toOption_solveWith_system, toOption_solveWith_system, classifySystem_swap]
  · exact Derivation.linear_neg
  · exact Derivation.quadratic_neg

end WorkedEquations
