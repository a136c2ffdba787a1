/-
Why a text is not taken as an equation, and how that is put to the person who
typed it.
-/
import WorkedEquations.Equation.Family

namespace WorkedEquations

namespace Refusal

inductive Cause where
  /-- There is no text. -/
  | empty
  /-- The text is not of the family's form. -/
  | mismatch (text : String)
  /-- A system came with one text. -/
  | missingSecond
  /-- A numeral is too large for a number. -/
  | tooLarge (text token : String)
deriving DecidableEq

end Refusal

/-- A refusal of a text that was meant as an equation of a family. -/
structure Refusal where
  family : Family
  cause : Refusal.Cause
deriving DecidableEq

/-- The refusal with a valid example of the family. -/
def Refusal.message (r : Refusal) : String :=
  let family := r.family.name
  let sample := r.family.sample
  match r.cause with
  | .empty => s!"the equation is empty, enter a {family} equation such as {sample}"
  | .mismatch text => s!"'{text}' is not a valid {family} equation, expected something like {sample}"
  | .missingSecond => s!"a system needs two equations, for example {sample}"
  | .tooLarge text token => s!"coefficient '{token}' in '{text}' is not a finite number"

end WorkedEquations
