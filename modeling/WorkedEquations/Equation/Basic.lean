/-
An equation as numbers: the coefficients of its family and the letter of its
unknown.
-/
import WorkedEquations.Decimal.Layout
import WorkedEquations.Equation.Family

namespace WorkedEquations

/-- One row `a·x + b·y = c` of a system. -/
structure Row where
  a : Binary64
  b : Binary64
  c : Binary64
deriving DecidableEq

def Row.toList (r : Row) : List Binary64 := [r.a, r.b, r.c]

inductive Coefficients where
  /-- `a·x + b = c` -/
  | linear (a b c : Binary64)
  /-- `a·x² + b·x + c = 0` -/
  | quadratic (a b c : Binary64)
  | system (first second : Row)
deriving DecidableEq

namespace Coefficients

def family : Coefficients → Family
  | linear .. => .linear
  | quadratic .. => .quadratic
  | system .. => .system

/-- The coefficients in the order they are written in. -/
def toList : Coefficients → List Binary64
  | linear a b c => [a, b, c]
  | quadratic a b c => [a, b, c]
  | system first second => first.toList ++ second.toList

end Coefficients

/-- Coefficients with the letter of the unknown; a system has the unknowns x and y. -/
structure Equation where
  coefficients : Coefficients
  unknown : Char
deriving DecidableEq

namespace Equation

def family (e : Equation) : Family := e.coefficients.family

/-- Numbers in a list, each with the fewest digits that read back. -/
def listText (xs : List Binary64) : String :=
  "[" ++ ", ".intercalate (xs.map (·.text Decimal.withExponent)) ++ "]"

/-- The equation in words. -/
def description (e : Equation) : String :=
  s!"{e.family.name} equation in {e.unknown} with coefficients {listText e.coefficients.toList}"

end Equation
end WorkedEquations
