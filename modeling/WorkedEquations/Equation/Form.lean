/-
The written forms of the three families, and finding the form of a text.

    linear      [±a][*]v[±b]=[±]c
    quadratic   [±a][*]v^2[±b[*]v][±c]=0
    system row  [±a][*]x±[b][*]y=[±]c

A form records every piece of the text, so that `text` gives the text back.
What follows a numeral is never a digit or a point, so a numeral takes all the
digits it can and no choice has to be undone.
-/
import WorkedEquations.Equation.Numeral

namespace WorkedEquations

/-- A letter that may stand for the unknown. -/
def isUnknownLetter (c : Char) : Bool := c.isLower

/-- A star, if the text starts with one, and the rest. -/
def scanStar : List Char → Bool × List Char
  | '*' :: rest => (true, rest)
  | cs => (false, cs)

/-- A star as written, if there is one. -/
def starText (star : Bool) : List Char := if star then ['*'] else []

/-- A multiplier, an optional star and a letter. -/
structure Term where
  multiplier : Multiplier
  star : Bool
  letter : Char
deriving DecidableEq

namespace Term

def text (t : Term) : List Char := t.multiplier.text ++ starText t.star ++ [t.letter]

/-- The term at the start of a text, if there is one, and the rest. -/
def scan (cs : List Char) : Option (Term × List Char) :=
  let (multiplier, rest) := Multiplier.scan cs
  let (star, rest) := scanStar rest
  match rest with
  | letter :: rest => if isUnknownLetter letter then some (⟨multiplier, star, letter⟩, rest) else none
  | [] => none

/-- The star, if there is one, stands after an explicit numeral. -/
def starAllowed (t : Term) : Bool := !t.star || t.multiplier.admitsStar

/-- The coefficient of a term that may be left out: then it is zero. -/
def readOptional : Option Term → Except Unreadable Binary64
  | none => .ok 0
  | some t => t.multiplier.read

end Term

/-- A constant with a sign at the start of a text, if there is one, and the rest. -/
def scanSignedConstant (cs : List Char) : Option Constant × List Char :=
  match Constant.scan cs with
  | some (⟨some sign, n⟩, rest) => (some ⟨some sign, n⟩, rest)
  | _ => (none, cs)

/-- A term with a sign at the start of a text, if there is one, and the rest. -/
def scanSignedTerm (cs : List Char) : Option Term × List Char :=
  match Term.scan cs with
  | some (⟨⟨some sign, n⟩, star, letter⟩, rest) => (some ⟨⟨some sign, n⟩, star, letter⟩, rest)
  | _ => (none, cs)

/-- An equals sign and a constant that ends the text. -/
def rightSide? : List Char → Option Constant
  | '=' :: rest =>
    match Constant.scan rest with
    | some (c, []) => some c
    | _ => none
  | _ => none

/-- `[±a][*]v[±b]=[±]c` -/
structure LinearForm where
  lead : Term
  constant : Option Constant
  right : Constant
deriving DecidableEq

namespace LinearForm

def text (f : LinearForm) : List Char :=
  f.lead.text ++ (f.constant.map Constant.text).getD [] ++ '=' :: f.right.text

/-- The linear form of a text. -/
def ofText? (cs : List Char) : Option LinearForm :=
  match Term.scan cs with
  | none => none
  | some (lead, rest) =>
    let (constant, rest) := scanSignedConstant rest
    (rightSide? rest).map fun right => ⟨lead, constant, right⟩

end LinearForm

/-- The right side of a quadratic equation: a zero, a point, zeros. -/
def isZeroSide : List Char → Bool
  | ['=', '0'] => true
  | '=' :: '0' :: '.' :: zeros => zeros.all (· == '0')
  | _ => false

/-- `[±a][*]v^2[±b[*]v][±c]=0` -/
structure QuadraticForm where
  lead : Term
  middle : Option Term
  constant : Option Constant
  /-- The right side from the equals sign on. -/
  side : List Char
deriving DecidableEq

namespace QuadraticForm

def text (f : QuadraticForm) : List Char :=
  f.lead.text ++ ['^', '2'] ++ (f.middle.map Term.text).getD [] ++
    (f.constant.map Constant.text).getD [] ++ f.side

/-- The quadratic form of a text. -/
def ofText? (cs : List Char) : Option QuadraticForm :=
  match Term.scan cs with
  | some (lead, '^' :: '2' :: rest) =>
    let (middle, rest) := scanSignedTerm rest
    let (constant, side) := scanSignedConstant rest
    if isZeroSide side then some ⟨lead, middle, constant, side⟩ else none
  | _ => none

end QuadraticForm

/-- `[±a][*]x±[b][*]y=[±]c` -/
structure RowForm where
  x : Term
  y : Term
  right : Constant
deriving DecidableEq

namespace RowForm

def text (f : RowForm) : List Char := f.x.text ++ f.y.text ++ '=' :: f.right.text

/-- The row form of a text. -/
def ofText? (cs : List Char) : Option RowForm :=
  match Term.scan cs with
  | none => none
  | some (x, rest) =>
    match scanSignedTerm rest with
    | (none, _) => none
    | (some y, rest) =>
      if x.letter = 'x' ∧ y.letter = 'y' then (rightSide? rest).map fun right => ⟨x, y, right⟩
      else none

end RowForm
end WorkedEquations
