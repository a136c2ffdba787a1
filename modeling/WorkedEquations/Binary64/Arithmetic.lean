/-
Sum, difference, product, quotient and square root: the exact result rounded
once, infinities and NaN as the standard for the format lays down.
-/
import WorkedEquations.Binary64.Rounding

namespace WorkedEquations
namespace Binary64

/-- A sign and a number of units as one whole number. -/
def signed (negative : Bool) (n : Nat) : Int := if negative then -(n : Int) else n

/-- The sum. An exact zero is positive unless both summands carry a minus. -/
def add : Binary64 → Binary64 → Binary64
  | .nan, _ => .nan
  | _, .nan => .nan
  | .infinite s, .infinite t => if s = t then .infinite s else .nan
  | .infinite s, .finite .. => .infinite s
  | .finite .., .infinite t => .infinite t
  | .finite s a, .finite t b =>
    let sum := signed s a.units + signed t b.units
    if sum = 0 then signedZero (s && t) else ofQuotient (decide (sum < 0)) sum.natAbs 1

def sub (x y : Binary64) : Binary64 := add x (neg y)

/-- The product; nothing times an infinity is no number. -/
def mul : Binary64 → Binary64 → Binary64
  | .nan, _ => .nan
  | _, .nan => .nan
  | .infinite s, .infinite t => .infinite (s != t)
  | .infinite s, .finite t b => if b.digits = 0 then .nan else .infinite (s != t)
  | .finite s a, .infinite t => if a.digits = 0 then .nan else .infinite (s != t)
  | .finite s a, .finite t b => ofQuotient (s != t) (a.units * b.units) Magnitude.one

/-- The quotient; a number over zero is an infinity, zero over zero no number. -/
def div : Binary64 → Binary64 → Binary64
  | .nan, _ => .nan
  | _, .nan => .nan
  | .infinite _, .infinite _ => .nan
  | .infinite s, .finite t _ => .infinite (s != t)
  | .finite s _, .infinite t => signedZero (s != t)
  | .finite s a, .finite t b =>
    if b.digits = 0 then
      if a.digits = 0 then .nan else .infinite (s != t)
    else ofQuotient (s != t) (a.units * Magnitude.one) b.units

instance : Add Binary64 := ⟨add⟩
instance : Sub Binary64 := ⟨sub⟩
instance : Mul Binary64 := ⟨mul⟩
instance : Div Binary64 := ⟨div⟩

/-- The square root. An exact root in units is a whole number or irrational, and the points
where rounding turns are whole numbers, so the half stands for whatever follows the whole part. -/
def sqrt : Binary64 → Binary64
  | .nan => .nan
  | .infinite s => if s then .nan else .infinite false
  | .finite s m =>
    if m.digits = 0 then .finite s m
    else if s then .nan
    else
      let square := m.units * Magnitude.one
      let root := floorSqrt square
      if root * root = square then ofQuotient false root 1 else ofQuotient false (2 * root + 1) 2

end Binary64
end WorkedEquations
