/-
The two quantities that decide how many solutions there are: the discriminant
of a quadratic and the determinant of a system. Both are differences of
products, and a difference that rounding of the products can explain counts as
zero.
-/
import WorkedEquations.Binary64.Order
import WorkedEquations.Equation.Basic

namespace WorkedEquations

/-- The relative size up to which a difference of products counts as zero: `1e-12`. -/
def zeroTolerance : Binary64 := .ofDecimal false 1 (-12)

/-- Zero for a value that is small beside its products. An overflowed scale decides nothing. -/
def snapToZero (value scale : Binary64) : Binary64 :=
  if scale.isFinite && value.abs ≤ zeroTolerance * scale then 0 else value

/-- `b² - 4ac`. -/
def discriminant (a b c : Binary64) : Binary64 :=
  let square := b * b
  let product := 4 * a * c
  snapToZero (square - product) (square.abs.greater product.abs)

/-- `p·s - r·q` for the rows `p q` and `r s`. -/
def crossDifference (p q r s : Binary64) : Binary64 := p * s - r * q

/-- `a₁·b₂ - a₂·b₁`. -/
def determinant (first second : Row) : Binary64 :=
  snapToZero (crossDifference first.a first.b second.a second.b)
    ((first.a * second.b).abs.greater (second.a * first.b).abs)

end WorkedEquations
