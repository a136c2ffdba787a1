/-
The shortest decimal that reads back as a given magnitude.

The reals that round to a magnitude form an interval, its ends included
exactly when the digits are even. Grids of powers of ten are tried from coarse
to fine; the first grid with a point in the interval gives the digits, the
nearer one of two points and the upper one of two equally near.
-/
import WorkedEquations.Binary64.Basic

namespace WorkedEquations

/-- `digits * 10 ^ exponent`. -/
structure Decimal where
  digits : Nat
  exponent : Int
deriving DecidableEq, Repr

namespace Decimal

/-- A magnitude as a quarter of `value / den` with the ends of its interval on the same scale:
`low`, `value` and `high` quarters of an ulp. -/
structure Interval where
  low : Nat
  value : Nat
  high : Nat
  den : Nat
  /-- The ends belong to the interval. -/
  closed : Bool

/-- The interval that rounds to the magnitude. Below a power of two the gap is half as wide. -/
def Interval.ofMagnitude (m : Magnitude) : Interval :=
  let num := 1 <<< (m.scale - 1074)
  let below := if m.digits = 1 <<< 52 ∧ m.scale ≠ 0 then 1 else 2
  { low := (4 * m.digits - below) * num
    value := 4 * m.digits * num
    high := (4 * m.digits + 2) * num
    den := 4 <<< (1074 - m.scale)
    closed := m.digits % 2 = 0 }

/-- The interval measured in steps of `10 ^ exponent`. -/
def Interval.inSteps (i : Interval) (exponent : Int) : Interval :=
  match exponent with
  | .ofNat e => { i with den := i.den * Nat.pow 10 e }
  | .negSucc e =>
    let p := Nat.pow 10 (e + 1)
    { i with low := i.low * p, value := i.value * p, high := i.high * p }

/-- The whole number `n` of steps lies in the interval. -/
def Interval.holds (i : Interval) (n : Nat) : Bool :=
  if i.closed then decide (i.low ≤ n * i.den) && decide (n * i.den ≤ i.high)
  else decide (i.low < n * i.den) && decide (n * i.den < i.high)

/-- The point of the interval among the two whole numbers around the value. -/
def Interval.pick? (i : Interval) : Option Nat :=
  let below := i.value / i.den
  match i.holds below, i.holds (below + 1) with
  | true, true => some (if 2 * (i.value % i.den) < i.den then below else below + 1)
  | true, false => some below
  | false, true => some (below + 1)
  | false, false => none

/-- The first of the given number of grids, from `10 ^ exponent` down, with a point in the
interval. -/
def searchGrids (i : Interval) : (grids : Nat) → (exponent : Int) → Option Decimal
  | 0, _ => none
  | grids + 1, exponent =>
    match (i.inSteps exponent).pick? with
    | some n => some ⟨n, exponent⟩
    | none => searchGrids i grids (exponent - 1)

/-- An exponent whose power of ten exceeds the magnitude. -/
def topExponent (m : Magnitude) : Int := ((m.digits.log2 + m.scale : Int) - 1073) * 30103 / 100000 + 2

/-- The exact value of a magnitude. -/
def ofMagnitude (m : Magnitude) : Decimal := ⟨m.units * Nat.pow 5 1074, -1074⟩

/-- The shortest decimal that reads back as the magnitude. -/
def shortest (m : Magnitude) : Decimal :=
  if m.digits = 0 then ⟨0, 0⟩
  else (searchGrids (.ofMagnitude m) 24 (topExponent m)).getD (ofMagnitude m)

end Decimal
end WorkedEquations
