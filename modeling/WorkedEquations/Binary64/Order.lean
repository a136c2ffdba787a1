/-
Comparing numbers. NaN compares with nothing, and the two zeros are equal as
numbers.
-/
import WorkedEquations.Binary64.Arithmetic

namespace WorkedEquations
namespace Binary64

/-- The place on the number line, in units. The infinities stand where the first number past the
largest would. -/
def place : Binary64 → Int
  | .nan => 0
  | .infinite s => signed s (1 <<< 2098)
  | .finite s m => signed s m.units

/-- Equal as numbers. -/
def equals (x y : Binary64) : Bool := !x.isNaN && !y.isNaN && decide (x.place = y.place)

def less (x y : Binary64) : Bool := !x.isNaN && !y.isNaN && decide (x.place < y.place)

def atMost (x y : Binary64) : Bool := !x.isNaN && !y.isNaN && decide (x.place ≤ y.place)

/-- `x < y` as numbers. -/
instance : LT Binary64 := ⟨fun x y => x.less y = true⟩

/-- `x ≤ y` as numbers. -/
instance : LE Binary64 := ⟨fun x y => x.atMost y = true⟩

instance (x y : Binary64) : Decidable (x < y) := inferInstanceAs (Decidable (x.less y = true))

instance (x y : Binary64) : Decidable (x ≤ y) := inferInstanceAs (Decidable (x.atMost y = true))

/-- Zero of either sign. -/
def isZero (x : Binary64) : Bool := x.equals (signedZero false)

/-- The greater of two numbers; NaN gives way to a number. -/
def greater (x y : Binary64) : Binary64 :=
  if x.isNaN then y else if y.isNaN then x else if x < y then y else x

/-- The lesser of two numbers; NaN gives way to a number. -/
def lesser (x y : Binary64) : Binary64 :=
  if x.isNaN then y else if y.isNaN then x else if y < x then y else x

end Binary64
end WorkedEquations
