/-
The names of the values of a solution, and the answer line.
-/
import WorkedEquations.Display.Number
import WorkedEquations.Solution.Basic

namespace WorkedEquations
namespace Display

/-- The subscript for a decimal digit. -/
def subscriptDigit (digit : Char) : Char := Char.ofNat (digit.toNat - 0x30 + 0x2080)

/-- A letter with a number below it: x₁, x₂, … -/
def subscripted (letter : Char) (index : Nat) : String :=
  String.ofList (letter :: (Nat.toDigits 10 index).map subscriptDigit)

/-- The names of `count` values. One value is the unknown itself, the values of a system are x and
y, others are numbered. -/
def labels (family : Family) (unknown : Char) (count : Nat) : List String :=
  if count = 1 then [String.singleton unknown]
  else
    match family with
    | .system => ["x", "y"]
    | _ => (List.range count).map fun i => subscripted unknown (i + 1)

/-- The answer: every value with its name, or the message of a degenerate outcome. -/
def answer (places : Nat) (family : Family) (unknown : Char) : Solution → String
  | .degenerate kind => kind.message
  | .values xs =>
    ", ".intercalate
      ((labels family unknown xs.length).zipWith (fun label x => s!"{label} = {number places x}") xs)

end Display
end WorkedEquations
