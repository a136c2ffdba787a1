/-
The families of equations: what they are called, what one looks like, and how
many texts make one up.
-/
import WorkedEquations.Text.Blank
import WorkedEquations.Text.LowerCase

namespace WorkedEquations

inductive Family where
  /-- `a·x + b = c` -/
  | linear
  /-- `a·x² + b·x + c = 0` -/
  | quadratic
  /-- Two rows `a·x + b·y = c`. -/
  | system
deriving DecidableEq, Repr

namespace Family

def name : Family → String
  | linear => "linear"
  | quadratic => "quadratic"
  | system => "system"

/-- A valid text of the family, shown where one was not understood. -/
def sample : Family → String
  | linear => "2x+5=11"
  | quadratic => "x^2-4x+3=0"
  | system => "2x+3y=7 and x-y=1"

/-- How many equations the family needs. -/
def equationsNeeded : Family → Nat
  | system => 2
  | _ => 1

/-- The family a word names: its name or the short form, in any case, blanks around it. -/
def ofName? (word : String) : Option Family :=
  match Text.lower (String.ofList (Text.trim word.toList)) with
  | "linear" | "lin" => some linear
  | "quadratic" | "quad" => some quadratic
  | "system" | "sys" => some system
  | _ => none

end Family
end WorkedEquations
