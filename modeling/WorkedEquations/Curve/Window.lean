/-
The window of a parabola that is sampled: its half width around the vertex,
the step between samples, and how many steps it takes.
-/
import WorkedEquations.Binary64.Order

namespace WorkedEquations

/-- A window `[centre - halfWidth, centre + halfWidth]` walked in steps. -/
structure Window where
  halfWidth : Binary64
  step : Binary64
deriving DecidableEq

namespace Window

/-- Five to each side in steps of a fifth. -/
def default : Window := ⟨5, .ofDecimal false 2 (-1)⟩

instance : Inhabited Window := ⟨default⟩

/-- The most intervals a window may have. -/
def maxIntervals : Nat := 10000

/-- The whole number nearest a number that is not negative, the greater one of two equally near;
none for what is not finite. -/
def roundToNat? : Binary64 → Option Nat
  | .finite _ m => some (nearestUp m.units Magnitude.one)
  | _ => none

/-- The number of steps across the window. A window needs positive sizes and has at most
`maxIntervals` steps. -/
def intervals? (w : Window) : Option Nat :=
  if 0 < w.halfWidth ∧ 0 < w.step then
    (roundToNat? (2 * w.halfWidth / w.step)).filter fun n => decide (n ≤ maxIntervals)
  else none

end Window
end WorkedEquations
