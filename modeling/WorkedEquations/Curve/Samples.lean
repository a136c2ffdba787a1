/-
Points of a parabola around its vertex.
-/
import WorkedEquations.Curve.Window

namespace WorkedEquations

/-- A point of a curve. -/
structure Point where
  x : Binary64
  y : Binary64
deriving DecidableEq

namespace Curve

/-- The x of the vertex of `a·x² + b·x + c`; a straight line has none. -/
def vertex? (a b : Binary64) : Option Binary64 :=
  if a.isZero then none else some (-b / (2 * a) + 0)

/-- The point of `a·x² + b·x + c` at `x`. -/
def pointAt (a b c x : Binary64) : Point := ⟨x, a * x * x + b * x + c⟩

/-- The `i`-th sample of a window that starts at `start`. Each is found from its number, so that
steps do not add up errors. -/
def sampleAt (a b c start step : Binary64) (i : Nat) : Point :=
  pointAt a b c (start + Binary64.ofInt i * step)

/-- The samples of `a·x² + b·x + c` across a window around its vertex, both ends included. There
are none for a straight line or a window that is not allowed. -/
def samples (w : Window) (a b c : Binary64) : List Point :=
  match vertex? a b, w.intervals? with
  | some centre, some n =>
    (List.range (n + 1)).map (sampleAt a b c (centre - w.halfWidth) w.step)
  | _, _ => []

end Curve
end WorkedEquations
