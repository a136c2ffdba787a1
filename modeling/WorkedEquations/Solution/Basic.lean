/-
What solving an equation comes to: values, or a reason why there is no unique
answer.
-/
import WorkedEquations.Equation.Basic

namespace WorkedEquations

/-- Outcomes without a unique answer. They are answers, not errors. -/
inductive Degeneracy where
  | infinitelyManySolutions
  | noSolution
  | noRealSolution
  | notQuadratic
  | inconsistentOrDependent
  /-- A value on the way overflowed. -/
  | outOfRange
deriving DecidableEq, Repr

namespace Degeneracy

def all : List Degeneracy :=
  [infinitelyManySolutions, noSolution, noRealSolution, notQuadratic, inconsistentOrDependent,
    outOfRange]

/-- The outcome as it is told to the reader. -/
def message : Degeneracy → String
  | infinitelyManySolutions => "infinitely many solutions"
  | noSolution => "no solution"
  | noRealSolution => "no real solution"
  | notQuadratic => "not a quadratic equation"
  | inconsistentOrDependent => "inconsistent or dependent system"
  | outOfRange => "coefficients out of numeric range"

/-- The outcome as it is named in the log. -/
def label : Degeneracy → String
  | infinitelyManySolutions => "InfinitelyManySolutions"
  | noSolution => "NoSolution"
  | noRealSolution => "NoRealSolution"
  | notQuadratic => "NotQuadratic"
  | inconsistentOrDependent => "InconsistentOrDependent"
  | outOfRange => "OutOfRange"

end Degeneracy

/-- The values of the unknowns, in the order they are reported, or why there are none. -/
inductive Solution where
  | values (xs : List Binary64)
  | degenerate (kind : Degeneracy)
deriving DecidableEq

namespace Solution

/-- The values, none for a degenerate outcome. -/
def toList : Solution → List Binary64
  | values xs => xs
  | degenerate _ => []

def isDegenerate : Solution → Bool
  | values _ => false
  | degenerate _ => true

/-- The solution as it is named in the log. -/
def label : Solution → String
  | values xs => s!"Unique({Equation.listText xs})"
  | degenerate kind => s!"Degenerate({kind.label})"

end Solution
end WorkedEquations
