/-
Numbers as they are shown to a reader: rounded to a number of places, no
zeros at the end of a fraction, no minus before a zero.
-/
import WorkedEquations.Binary64.Order
import WorkedEquations.Rounding

namespace WorkedEquations
namespace Display

/-- Places shown unless settings say otherwise. -/
def defaultPlaces : Nat := 3

/-- The magnitude in steps of `10 ^ -places`: the exact value rounded, a tie to the even step. -/
def steps (places : Nat) (m : Magnitude) : Nat := nearestEven (m.units * Nat.pow 10 places) Magnitude.one

/-- The digits of a fraction: `places` digits, then cut after the last that is not zero. -/
def fractionDigits (places fraction : Nat) : List Char :=
  let digits := Nat.toDigits 10 fraction
  let padded := List.replicate (places - digits.length) '0' ++ digits
  (padded.reverse.dropWhile (· == '0')).reverse

/-- A whole number of steps of `10 ^ -places` as a decimal. -/
def stepsText (places n : Nat) : List Char :=
  let fraction := n % Nat.pow 10 places
  Nat.toDigits 10 (n / Nat.pow 10 places) ++
    if fraction = 0 then [] else '.' :: fractionDigits places fraction

/-- The number as it is shown. -/
def number (places : Nat) : Binary64 → String
  | .nan => "NaN"
  | .infinite s => if s then "-inf" else "inf"
  | .finite s m =>
    let n := steps places m
    String.ofList ((if s && n != 0 then ['-'] else []) ++ stepsText places n)

/-- A shown number in brackets if it starts with a minus, as it stands inside a product. -/
def factor (places : Nat) (x : Binary64) : String :=
  let shown := number places x
  if shown.toList.head? = some '-' then s!"({shown})" else shown

/-- The sign that joins a term to what stands before it. -/
def joiningSign (x : Binary64) : String := if x < 0 then "-" else "+"

/-- A coefficient with its symbol; a coefficient shown as one is left out. -/
def leadingTerm (places : Nat) (coefficient : Binary64) (symbol : String) : String :=
  let shown := number places coefficient
  if shown = "1" then symbol
  else if shown = "-1" then "-" ++ symbol
  else shown ++ symbol

/-- A term after another one: `+ 3y`, `- y`. -/
def followingTerm (places : Nat) (coefficient : Binary64) (symbol : String) : String :=
  joiningSign coefficient ++ " " ++ leadingTerm places coefficient.abs symbol

/-- A constant after a term: `+ 5`, `- 2`. -/
def constant (places : Nat) (x : Binary64) : String :=
  joiningSign x ++ " " ++ number places x.abs

end Display
end WorkedEquations
