/-
From raw text to a worked equation: canonical form, classification, derivation
and, for a parabola, samples for a plot.
-/
import WorkedEquations.Curve.Samples
import WorkedEquations.Equation.Classify
import WorkedEquations.Equation.Normal
import WorkedEquations.Settings.Basic
import WorkedEquations.Solution.Derivation

namespace WorkedEquations

/-- A worked equation. -/
structure Worked where
  family : Family
  /-- The unknown; x for a system. -/
  unknown : Char
  /-- The canonical text, the two of a system with `; ` between them. -/
  equation : String
  solution : Solution
  /-- The steps in words. -/
  steps : List String
  /-- Samples of a parabola whose numbers stayed in range. -/
  plot : Option (List Point)
deriving DecidableEq

namespace Worked

/-- The answer with numbers at a number of places. -/
def answer (w : Worked) (places : Nat) : String :=
  Display.answer places w.family w.unknown w.solution

/-- The samples that go with a derivation: those of a parabola whose numbers stayed in range. -/
def plotOf (window : Window) : Coefficients → Solution → Option (List Point)
  | .quadratic a b c, solution =>
    if a.isZero ∨ solution = .degenerate .outOfRange then none
    else some (Curve.samples window a b c)
  | _, _ => none

/-- The canonical texts of an equation: one, or two for a system. A system without a second text
has an empty one. -/
def canonical (raw : String) (second : Option String) : Family → String × Option String
  | .system => (normalize raw, some ((second.map normalize).getD ""))
  | _ => (normalize raw, none)

/-- The canonical text a worked equation is known by. -/
def textOf : String × Option String → String
  | (first, none) => first
  | (first, some second) => first ++ "; " ++ second

/-- The equation in canonical texts. -/
def classified (texts : String × Option String) (family : Family) : Except Refusal Equation :=
  match texts with
  | (first, none) => classify first family
  | (first, some second) => classifySystem first second

/-- A classified equation, worked. -/
def ofEquation (settings : Settings) (family : Family) (text : String) (e : Equation) : Worked :=
  let derivation := e.derive
  { family
    unknown := e.unknown
    equation := text
    solution := derivation.solution
    steps := derivation.lines settings.precision
    plot := plotOf settings.window e.coefficients derivation.solution }

end Worked

/-- Work a raw text out. A second text belongs to a system and is ignored otherwise. -/
def solveWith (settings : Settings) (raw : String) (second : Option String) (family : Family) :
    Except Refusal Worked :=
  let texts := Worked.canonical raw second family
  (Worked.classified texts family).map (Worked.ofEquation settings family (Worked.textOf texts))

/-- Work a raw text out with the default settings. -/
def solve (raw : String) (second : Option String) (family : Family) : Except Refusal Worked :=
  solveWith .default raw second family

end WorkedEquations
