/-
Reading a number from a text: an optional sign, then digits with an optional
point and an optional exponent, or a word for an infinity or for NaN. The
value is the exact decimal rounded once.
-/
import WorkedEquations.Binary64.Rounding

namespace WorkedEquations
namespace Binary64

/-- Whether a text starts with a minus, and what follows an optional sign. -/
def splitSign : List Char → Bool × List Char
  | '-' :: rest => (true, rest)
  | '+' :: rest => (false, rest)
  | cs => (false, cs)

/-- The whole number that ASCII digits write. -/
def digitsValue (cs : List Char) : Nat := Nat.ofDigitChars 10 cs 0

/-- What may follow the digits of a number: nothing, or an exponent. -/
def exponentOf? : List Char → Option Int
  | [] => some 0
  | c :: rest =>
    if c = 'e' ∨ c = 'E' then
      let (negative, digits) := splitSign rest
      if digits.isEmpty || !digits.all Char.isDigit then none
      else some (if negative then -(digitsValue digits : Int) else digitsValue digits)
    else none

/-- Digits, an optional point with digits, an optional exponent: the digits without the point
and the power of ten that goes with them. -/
def decimalOf? (cs : List Char) : Option (Nat × Int) :=
  let whole := cs.takeWhile Char.isDigit
  let (fraction, rest) :=
    match cs.dropWhile Char.isDigit with
    | '.' :: rest => (rest.takeWhile Char.isDigit, rest.dropWhile Char.isDigit)
    | rest => ([], rest)
  if whole.isEmpty && fraction.isEmpty then none
  else (exponentOf? rest).map fun e => (digitsValue (whole ++ fraction), e - fraction.length)

/-- The number a text writes, if it writes one. -/
def ofText? (cs : List Char) : Option Binary64 :=
  let (negative, body) := splitSign cs
  let word := body.map Char.toLower
  if word = ['i', 'n', 'f'] ∨ word = ['i', 'n', 'f', 'i', 'n', 'i', 't', 'y'] then
    some (.infinite negative)
  else if word = ['n', 'a', 'n'] then some .nan
  else (decimalOf? body).map fun (digits, exponent) => ofDecimal negative digits exponent

end Binary64
end WorkedEquations
