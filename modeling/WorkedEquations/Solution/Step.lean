/-
The steps of a derivation, as a person would write them down. A step holds
exact numbers; they are rounded only when the step is put into words.
-/
import WorkedEquations.Display.Label

namespace WorkedEquations

/-- What turned out not to be a finite number. -/
inductive Quantity where
  /-- The right side after the constant has been moved. -/
  | difference (c b : Binary64)
  | unknown (letter : Char)
  | discriminant
  | root
  | determinant
  | ratio
deriving DecidableEq

/-- The sign before the root in the formula for a quadratic. -/
inductive Branch where
  | plus
  | minus
deriving DecidableEq

inductive Step where
  /-- The linear equation as it was understood. -/
  | linearEquation (a b c : Binary64) (unknown : Char)
  /-- No unknown is left. -/
  | reduces (b c : Binary64) (unknown : Char)
  | alwaysHolds (b c : Binary64) (unknown : Char)
  | neverHolds (b c : Binary64) (unknown : Char)
  /-- A positive constant goes to the other side, where `rest` is left. -/
  | subtract (a b c rest : Binary64) (unknown : Char)
  /-- A negative constant goes to the other side. -/
  | add (a b c rest : Binary64) (unknown : Char)
  | nothingToMove (a rest : Binary64) (unknown : Char)
  | divide (a rest x : Binary64) (unknown : Char)
  /-- The quadratic equation as it was understood. -/
  | quadraticEquation (a b c : Binary64) (unknown : Char)
  | coefficients (a b c : Binary64)
  | discriminant (a b c delta : Binary64)
  | notQuadratic
  | negativeDiscriminant (delta : Binary64) (unknown : Char)
  | zeroDiscriminant
  | repeatedRoot (minusB twoA x : Binary64) (unknown : Char)
  | positiveDiscriminant (delta : Binary64)
  | squareRoot (root : Binary64)
  | branchRoot (branch : Branch) (minusB root twoA x : Binary64) (unknown : Char)
  /-- A row of a system as it was understood. -/
  | row (index : Nat) (row : Row)
  | determinant (first second : Row) (d : Binary64)
  | zeroDeterminant
  | xRatio (dx d x : Binary64)
  | yRatio (dy d y : Binary64)
  | notFinite (what : Quantity)
deriving DecidableEq

open Display in
/-- The name of a quantity in a step. -/
def Quantity.text (places : Nat) : Quantity → String
  | difference c b => number places c ++ " - " ++ factor places b
  | unknown letter => String.singleton letter
  | discriminant => "Δ"
  | root => "a root"
  | determinant => "D"
  | ratio => "a Cramer ratio"

def Branch.text : Branch → String
  | plus => "+"
  | minus => "-"

/-- The number of the root that a branch gives. -/
def Branch.index : Branch → Nat
  | plus => 1
  | minus => 2

namespace Step

open Display

/-- `a·x + b = c` with a constant that is zero left out. -/
def linearText (places : Nat) (a b c : Binary64) (unknown : Char) : String :=
  let left := leadingTerm places a (String.singleton unknown)
  let left := if b.isZero then left else left ++ " " ++ constant places b
  left ++ " = " ++ number places c

/-- `a·x² + b·x + c = 0` with terms that are zero left out. -/
def quadraticText (places : Nat) (a b c : Binary64) (unknown : Char) : String :=
  let symbol := String.singleton unknown
  let left := leadingTerm places a (symbol ++ "^2")
  let left := if b.isZero then left else left ++ " " ++ followingTerm places b symbol
  let left := if c.isZero then left else left ++ " " ++ constant places c
  left ++ " = 0"

/-- `a·x + b·y = c` with both terms. -/
def rowText (places : Nat) (r : Row) : String :=
  leadingTerm places r.a "x" ++ " " ++ followingTerm places r.b "y" ++ " = " ++ number places r.c

/-- The step in words, numbers rounded to a number of places. -/
def text (places : Nat) (step : Step) : String :=
  let num := number places
  let fac := factor places
  match step with
  | linearEquation a b c v => "Equation: " ++ linearText places a b c v
  | reduces b c v =>
    s!"The coefficient of {v} is 0, so the equation reduces to {num b} = {num c}"
  | alwaysHolds b c v => s!"{num b} = {num c} holds for every {v}: infinitely many solutions"
  | neverHolds b c v => s!"{num b} ≠ {num c} for any {v}: no solution"
  | subtract a b c rest v =>
    let left := leadingTerm places a (String.singleton v)
    s!"Subtract {num b} from both sides: {left} = {num c} - {num b} = {num rest}"
  | add a b c rest v =>
    let left := leadingTerm places a (String.singleton v)
    s!"Add {num (-b)} to both sides: {left} = {num c} + {num (-b)} = {num rest}"
  | nothingToMove a rest v =>
    let left := leadingTerm places a (String.singleton v)
    s!"No constant to move: {left} = {num rest}"
  | divide a rest x v =>
    s!"Divide both sides by {num a}: {v} = {num rest} / {fac a} = {num x}"
  | quadraticEquation a b c v => "Equation: " ++ quadraticText places a b c v
  | coefficients a b c => s!"Coefficients: a = {num a}, b = {num b}, c = {num c}"
  | discriminant a b c delta =>
    s!"Discriminant: Δ = b^2 - 4ac = {fac b}^2 - 4·{fac a}·{fac c} = {num delta}"
  | notQuadratic => "The leading coefficient a is 0, so the equation is not quadratic"
  | negativeDiscriminant delta v =>
    s!"Δ = {num delta} < 0: the parabola does not cross the {v}-axis, no real solution"
  | zeroDiscriminant => "Δ = 0: the equation has one repeated root"
  | repeatedRoot minusB twoA x v =>
    s!"{v} = -b / (2a) = {num minusB} / {fac twoA} = {num x}"
  | positiveDiscriminant delta =>
    s!"Δ = {num delta} > 0: the equation has two distinct real roots"
  | squareRoot root => s!"√Δ = {num root}"
  | branchRoot branch minusB root twoA x v =>
    let sign := branch.text
    let label := subscripted v branch.index
    s!"{label} = (-b {sign} √Δ) / (2a) = ({num minusB} {sign} {num root}) / {fac twoA} = {num x}"
  | row index r => s!"Equation {index}: " ++ rowText places r
  | determinant first second d =>
    s!"Determinant: D = a₁·b₂ - a₂·b₁ = {fac first.a}·{fac second.b}" ++
      s!" - {fac second.a}·{fac first.b} = {num d}"
  | zeroDeterminant =>
    "D = 0: Cramer's rule does not apply, the system is inconsistent or dependent"
  | xRatio dx d x => s!"x = (c₁·b₂ - c₂·b₁) / D = {num dx} / {fac d} = {num x}"
  | yRatio dy d y => s!"y = (a₁·c₂ - a₂·c₁) / D = {num dy} / {fac d} = {num y}"
  | notFinite what =>
    what.text places ++ " is not a finite number: the coefficients are out of numeric range"

end Step
end WorkedEquations
