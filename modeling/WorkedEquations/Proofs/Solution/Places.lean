/-
Rounding for display never feeds back.

The steps of a derivation hold exact numbers, and a number of places comes in
only where they are put into words. So settings that differ in all but the
window of the plot give the same result, the wording of its steps apart.

`Worked.sameInPlaces_ofEquation` is about one equation worked out at two
precisions, `solveWith_places` about any text, and the solution of any
coefficients.
-/
import WorkedEquations.Proofs.Solution.Relettered

namespace WorkedEquations

namespace Worked

/-- `a` and `b` are one result, with its numbers shown with `p` places in the steps of `a` and with
`q` places in those of `b`. -/
structure SameInPlaces (p q : Nat) (a b : Worked) : Prop where
  family : b.family = a.family
  unknown : b.unknown = a.unknown
  equation : b.equation = a.equation
  solution : b.solution = a.solution
  plot : b.plot = a.plot
  length_steps : b.steps.length = a.steps.length
  /-- The same steps are put into words. -/
  steps : ∃ steps : List Step, a.steps = steps.map (·.text p) ∧ b.steps = steps.map (·.text q)

/-- Of the settings, only the window and the precision are looked at, and the precision only for
the words of the steps. -/
theorem sameInPlaces_ofEquation {s t : Settings} (hwindow : t.window = s.window) (family : Family)
    (text : String) (e : Equation) :
    (ofEquation s family text e).SameInPlaces s.precision t.precision (ofEquation t family text e) := by
  refine ⟨rfl, rfl, rfl, rfl, ?_, ?_, e.derive.steps, rfl, rfl⟩
  · change plotOf t.window _ _ = plotOf s.window _ _
    rw [hwindow]
  · exact Equation.length_lines e.coefficients e.unknown e.unknown s.precision t.precision

end Worked

/-- **Rounding for display never feeds back.** Settings that differ in all but the window refuse the
same texts for the same reason, and work out all others to the same result. The solution of any
coefficients, finite or not, and the number of steps to it depend neither on the places nor on the
letter. -/
theorem solveWith_places :
    (∀ (settings : Settings) (precision capacity : Nat) (level : String) (toFile : Bool)
      (raw : String) (second : Option String) (family : Family),
      let other := { settings with
        precision := precision, historyCapacity := capacity, logLevel := level, logToFile := toFile }
      (∃ refusal, solveWith settings raw second family = .error refusal ∧
        solveWith other raw second family = .error refusal) ∨
      ∃ a b, solveWith settings raw second family = .ok a ∧ solveWith other raw second family = .ok b ∧
        a.SameInPlaces settings.precision precision b) ∧
    ∀ (k : Coefficients) (v w : Char) (p q : Nat),
      (⟨k, w⟩ : Equation).derive.solution = (⟨k, v⟩ : Equation).derive.solution ∧
      ((⟨k, w⟩ : Equation).derive.lines q).length = ((⟨k, v⟩ : Equation).derive.lines p).length := by
  constructor
  · intro settings precision capacity level toFile raw second family other
    -- The texts are read before any setting is looked at.
    cases h : Worked.classified (Worked.canonical raw second family) family with
    | error refusal =>
      refine .inl ⟨refusal, ?_, ?_⟩ <;> simp only [solveWith, h, Except.map]
    | ok e =>
      refine .inr ⟨_, _, ?_, ?_, Worked.sameInPlaces_ofEquation (s := settings) (t := other) rfl family
        (Worked.textOf (Worked.canonical raw second family)) e⟩ <;>
        simp only [solveWith, h, Except.map]
  · exact fun k v w p q => ⟨Equation.solution_letter k v w, Equation.length_lines k v w p q⟩

end WorkedEquations
