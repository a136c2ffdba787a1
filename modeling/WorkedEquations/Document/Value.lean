/-
Values of a settings document. A token is taken as a whole number if it reads
as one, else as a number, else as a truth value, else as text.
-/
import WorkedEquations.Binary64.Reading
import WorkedEquations.Decimal.Layout
import WorkedEquations.Text.Blank

namespace WorkedEquations
namespace Document

inductive Value where
  | text (s : String)
  | float (x : Binary64)
  /-- A whole number of 64 bits. -/
  | integer (n : Int)
  | boolean (b : Bool)
deriving DecidableEq

namespace Value

/-- The whole number a text writes, if it fits in 64 bits. -/
def integerOf? (cs : List Char) : Option Int :=
  let (negative, digits) := Binary64.splitSign cs
  if digits.isEmpty || !digits.all Char.isDigit then none
  else
    let n : Int := Binary64.digitsValue digits
    let n := if negative then -n else n
    if -0x8000000000000000 ≤ n ∧ n < 0x8000000000000000 then some n else none

def booleanOf? (cs : List Char) : Option Bool :=
  if cs = ['t', 'r', 'u', 'e'] then some true
  else if cs = ['f', 'a', 'l', 's', 'e'] then some false
  else none

/-- The value of a token, white space around it ignored. -/
def ofToken (token : List Char) : Value :=
  let cs := Text.trim token
  match integerOf? cs with
  | some n => integer n
  | none =>
    match Binary64.ofText? cs with
    | some x => float x
    | none =>
      match booleanOf? cs with
      | some b => boolean b
      | none => text (String.ofList cs)

/-- The value as it is shown. -/
def display : Value → String
  | text s => s
  | float x => x.plainText
  | integer n => toString n
  | boolean b => if b then "true" else "false"

/-- The value as a number. -/
def toFloat? : Value → Option Binary64
  | float x => some x
  | integer n => some (Binary64.ofInt n)
  | _ => none

def toInteger? : Value → Option Int
  | integer n => some n
  | _ => none

def toBoolean? : Value → Option Bool
  | boolean b => some b
  | _ => none

end Value
end Document
end WorkedEquations
