/-
Numerals and coefficients as they are written, and the numbers they stand
for.

A numeral has digits of any script, but only ASCII digits have a value. The
coefficient of a variable may be left out, or be a bare sign: then it is one
or minus one.
-/
import WorkedEquations.Binary64.Reading
import WorkedEquations.Text.DecimalDigit

namespace WorkedEquations

inductive Sign where
  | plus
  | minus
deriving DecidableEq

def Sign.toChar : Sign → Char
  | plus => '+'
  | minus => '-'

def Sign.ofChar? (c : Char) : Option Sign :=
  if c = '+' then some .plus else if c = '-' then some .minus else none

/-- A sign, if the text starts with one, and the rest. -/
def Sign.scan : List Char → Option Sign × List Char
  | [] => (none, [])
  | c :: rest =>
    match ofChar? c with
    | some sign => (some sign, rest)
    | none => (none, c :: rest)

/-- The sign as written, if there is one. -/
def Sign.text (sign : Option Sign) : List Char := sign.toList.map Sign.toChar

/-- Digits before a point, and digits after it if there is one. -/
structure Numeral where
  whole : List Char
  fraction : Option (List Char)
deriving DecidableEq

namespace Numeral

/-- The numeral as written. -/
def text (n : Numeral) : List Char :=
  n.whole ++
    match n.fraction with
    | none => []
    | some digits => '.' :: digits

/-- All digits without the point. -/
def digits (n : Numeral) : List Char := n.whole ++ n.fraction.getD []

/-- A numeral at the start of a text, if there is one, and the rest. It takes all the digits it
can; a point needs a digit at one side at least. -/
def scan (cs : List Char) : Option Numeral × List Char :=
  let whole := cs.takeWhile Text.isDecimalDigit
  match cs.dropWhile Text.isDecimalDigit with
  | '.' :: rest =>
    let fraction := rest.takeWhile Text.isDecimalDigit
    if whole.isEmpty && fraction.isEmpty then (none, cs)
    else (some ⟨whole, some fraction⟩, rest.dropWhile Text.isDecimalDigit)
  | rest => if whole.isEmpty then (none, cs) else (some ⟨whole, none⟩, rest)

/-- Some digit is an ASCII one. -/
def hasAsciiDigit (n : Numeral) : Bool := n.digits.any Char.isDigit

end Numeral

/-- Why a coefficient has no number. -/
inductive Unreadable where
  /-- A digit is not an ASCII one. -/
  | foreignDigit
  /-- The written number is past the largest finite one. -/
  | tooLarge (token : List Char)
deriving DecidableEq

/-- The number of a signed numeral. -/
def Numeral.read (sign : Option Sign) (n : Numeral) : Except Unreadable Binary64 :=
  if n.digits.all Char.isDigit then
    let value :=
      Binary64.ofDecimal (sign = some .minus) (Binary64.digitsValue n.digits)
        (-((n.fraction.getD []).length : Int))
    if value.isFinite then .ok value else .error (.tooLarge (Sign.text sign ++ n.text))
  else .error .foreignDigit

/-- What stands before a variable: an optional sign and an optional numeral. -/
structure Multiplier where
  sign : Option Sign
  numeral : Option Numeral
deriving DecidableEq

namespace Multiplier

/-- The multiplier as written. -/
def text (m : Multiplier) : List Char :=
  Sign.text m.sign ++ (m.numeral.map Numeral.text).getD []

/-- The multiplier at the start of a text, and the rest. -/
def scan (cs : List Char) : Multiplier × List Char :=
  let (sign, rest) := Sign.scan cs
  let (numeral, rest) := Numeral.scan rest
  (⟨sign, numeral⟩, rest)

/-- A star may stand only after an explicit numeral, one with an ASCII digit. -/
def admitsStar (m : Multiplier) : Bool := m.numeral.any Numeral.hasAsciiDigit

/-- The number of the multiplier: one or minus one where no numeral stands. -/
def read (m : Multiplier) : Except Unreadable Binary64 :=
  match m.numeral with
  | some n => n.read m.sign
  | none => .ok (if m.sign = some .minus then -1 else 1)

end Multiplier

/-- A constant: an optional sign and a numeral. -/
structure Constant where
  sign : Option Sign
  numeral : Numeral
deriving DecidableEq

namespace Constant

/-- The constant as written. -/
def text (c : Constant) : List Char := Sign.text c.sign ++ c.numeral.text

/-- The constant at the start of a text, if there is one, and the rest. -/
def scan (cs : List Char) : Option (Constant × List Char) :=
  match Multiplier.scan cs with
  | (⟨sign, some n⟩, rest) => some (⟨sign, n⟩, rest)
  | _ => none

def read (c : Constant) : Except Unreadable Binary64 := c.numeral.read c.sign

/-- The number of a constant that may be left out: then it is zero. -/
def readOptional : Option Constant → Except Unreadable Binary64
  | none => .ok 0
  | some c => c.read

end Constant
end WorkedEquations
