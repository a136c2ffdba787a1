/-
How a decimal is laid out: positionally, or with an exponent where the format
says so.
-/
import WorkedEquations.Decimal.Shortest

namespace WorkedEquations
namespace Decimal

/-- The decisions of a number format. -/
structure Layout where
  /-- A leading digit at `10 ^ e` is written positionally if `from ≤ e < below`; none: always. -/
  positional : Option (Int × Int)
  /-- What follows a whole number without an exponent. -/
  wholeMark : String

/-- Every number in full, whole numbers bare: `0.0000001`, `5`. -/
def inFull : Layout := ⟨none, ""⟩

/-- Whole numbers with `.0`, exponents from `1e16` on and below `0.0001`: `5.0`, `1.5e-7`. -/
def withExponent : Layout := ⟨some (-4, 16), ".0"⟩

/-- The power of ten of the leading digit. -/
def leadingExponent (d : Decimal) : Int := (Nat.toDigits 10 d.digits).length - 1 + d.exponent

/-- All digits before a point. -/
def wholeText (d : Decimal) : String :=
  String.ofList (Nat.toDigits 10 d.digits ++ List.replicate d.exponent.toNat '0')

/-- The last `places` digits after a point, zeros in front where there are too few digits. -/
def pointText (digits : List Char) (places : Nat) : String :=
  let padded := List.replicate (places + 1 - digits.length) '0' ++ digits
  let whole := padded.length - places
  String.ofList (padded.take whole ++ '.' :: padded.drop whole)

/-- The decimal without an exponent. -/
def positionalText (n : Layout) (d : Decimal) : String :=
  if 0 ≤ d.exponent then d.wholeText ++ n.wholeMark
  else pointText (Nat.toDigits 10 d.digits) (-d.exponent).toNat

/-- One digit, the others after a point, and the exponent. -/
def scientificText (d : Decimal) : String :=
  let mantissa :=
    match Nat.toDigits 10 d.digits with
    | first :: second :: rest => first :: '.' :: second :: rest
    | digits => digits
  String.ofList mantissa ++ "e" ++ toString d.leadingExponent

/-- The decimal in a format. Zero is always positional. -/
def text (n : Layout) (d : Decimal) : String :=
  match n.positional with
  | none => positionalText n d
  | some (lowest, bound) =>
    if d.digits = 0 ∨ (lowest ≤ d.leadingExponent ∧ d.leadingExponent < bound) then
      positionalText n d
    else d.scientificText

end Decimal

/-- The fewest digits that read back as the number, in a format. -/
def Binary64.text (n : Decimal.Layout) : Binary64 → String
  | .nan => "NaN"
  | .infinite s => (if s then "-" else "") ++ "inf"
  | .finite s m => (if s then "-" else "") ++ (Decimal.shortest m).text n

/-- The fewest digits that read back as the number, in full. -/
def Binary64.plainText (x : Binary64) : String := x.text Decimal.inFull

end WorkedEquations
