/-
Working an equation out: the solution together with the steps that lead to
it. The steps are taken with exact numbers, so that no rounding for display
enters a decision or a value.
-/
import WorkedEquations.Solution.Decisive
import WorkedEquations.Solution.Step

namespace WorkedEquations

/-- A solution and the steps that lead to it. -/
structure Derivation where
  solution : Solution
  steps : List Step
deriving DecidableEq

namespace Derivation

/-- The steps in words. -/
def lines (places : Nat) (d : Derivation) : List String := d.steps.map (·.text places)

/-- A derivation that ends without a unique answer. -/
def degenerate (kind : Degeneracy) (steps : List Step) : Derivation := ⟨.degenerate kind, steps⟩

/-- A derivation that ends because something is not a finite number. -/
def notFinite (what : Quantity) (steps : List Step) : Derivation :=
  degenerate .outOfRange (steps ++ [.notFinite what])

/-- A derivation that ends with values, if all of them are finite. -/
def finishing (xs : List Binary64) (what : Quantity) (steps : List Step) : Derivation :=
  if xs.all Binary64.isFinite then ⟨.values xs, steps⟩ else notFinite what steps

/-- A quotient, without a minus before a zero. -/
def quotient (x y : Binary64) : Binary64 := x / y + 0

/-- The constant of a linear equation goes to the other side. -/
def moveConstant (a b c rest : Binary64) (unknown : Char) : Step :=
  if 0 < b then .subtract a b c rest unknown
  else if b < 0 then .add a b c rest unknown
  else .nothingToMove a rest unknown

/-- `a·x + b = c`: move the constant, then divide. -/
def linear (a b c : Binary64) (unknown : Char) : Derivation :=
  let equation := Step.linearEquation a b c unknown
  if a.isZero then
    let reduced := [equation, .reduces b c unknown]
    if b.equals c then
      degenerate .infinitelyManySolutions (reduced ++ [.alwaysHolds b c unknown])
    else degenerate .noSolution (reduced ++ [.neverHolds b c unknown])
  else
    let rest := c - b
    if rest.isFinite then
      let x := quotient rest a
      finishing [x] (.unknown unknown)
        [equation, moveConstant a b c rest unknown, .divide a rest x unknown]
    else notFinite (.difference c b) [equation]

/-- `a·x² + b·x + c = 0`: the discriminant decides, then the formula for the roots. The root with
the plus comes first. -/
def quadratic (a b c : Binary64) (unknown : Char) : Derivation :=
  let delta := discriminant a b c
  let known := [.quadraticEquation a b c unknown, .coefficients a b c, .discriminant a b c delta]
  if a.isZero then degenerate .notQuadratic (known ++ [.notQuadratic])
  else if !delta.isFinite then notFinite .discriminant known
  else
    let twoA := 2 * a
    if delta < 0 then
      degenerate .noRealSolution (known ++ [.negativeDiscriminant delta unknown])
    else if delta.isZero then
      let x := quotient (-b) twoA
      finishing [x] (.unknown unknown)
        (known ++ [.zeroDiscriminant, .repeatedRoot (-b) twoA x unknown])
    else
      let root := delta.sqrt
      let x₁ := quotient (-b + root) twoA
      let x₂ := quotient (-b - root) twoA
      finishing [x₁, x₂] .root
        (known ++
          [.positiveDiscriminant delta, .squareRoot root,
            .branchRoot .plus (-b) root twoA x₁ unknown,
            .branchRoot .minus (-b) root twoA x₂ unknown])

/-- Two rows `a·x + b·y = c` by Cramer's rule. -/
def system (first second : Row) : Derivation :=
  let d := WorkedEquations.determinant first second
  let known := [.row 1 first, .row 2 second, .determinant first second d]
  if !d.isFinite then notFinite .determinant known
  else if d.isZero then degenerate .inconsistentOrDependent (known ++ [.zeroDeterminant])
  else
    let dx := crossDifference first.c first.b second.c second.b
    let dy := crossDifference first.a first.c second.a second.c
    let x := quotient dx d
    let y := quotient dy d
    finishing [x, y] .ratio (known ++ [.xRatio dx d x, .yRatio dy d y])

end Derivation

/-- The derivation for an equation of any family. -/
def Equation.derive (e : Equation) : Derivation :=
  match e.coefficients with
  | .linear a b c => .linear a b c e.unknown
  | .quadratic a b c => .quadratic a b c e.unknown
  | .system first second => .system first second

end WorkedEquations
