/-
Rounding an exact quotient to the nearest binary64 number, a tie to the one
with even digits. All arithmetic is an exact quotient rounded once.
-/
import WorkedEquations.Rounding
import WorkedEquations.Binary64.Basic

namespace WorkedEquations

/-- The magnitude nearest `num / den` units; none if it lies past the largest one. -/
def Magnitude.round? (num den : Nat) : Option Magnitude :=
  let scale := (num / den).log2 - 52
  let digits := nearestEven num (den <<< scale)
  if digits < 1 <<< 53 then Magnitude.of? digits scale else Magnitude.of? (1 <<< 52) (scale + 1)

namespace Binary64

/-- The number nearest `num / den` units, with the given sign; an infinity past the largest. -/
def ofQuotient (negative : Bool) (num den : Nat) : Binary64 :=
  match Magnitude.round? num den with
  | some m => .finite negative m
  | none => .infinite negative

/-- The number nearest `digits * 10 ^ exponent`, with the given sign. Exponents far outside the
range of the format are answered without forming the power. -/
def ofDecimal (negative : Bool) (digits : Nat) (exponent : Int) : Binary64 :=
  if digits = 0 then signedZero negative
  else
    match exponent with
    | .ofNat e =>
      if 309 ≤ e then .infinite negative else ofQuotient negative (digits * Nat.pow 10 e * Magnitude.one) 1
    | .negSucc e =>
      if (digits.log2 + 1) / 3 + 325 ≤ e + 1 then signedZero negative
      else ofQuotient negative (digits * Magnitude.one) (Nat.pow 10 (e + 1))

/-- The number nearest a whole number. -/
def ofInt (n : Int) : Binary64 := ofQuotient (decide (n < 0)) (n.natAbs * Magnitude.one) 1

instance : OfNat Binary64 n := ⟨ofInt n⟩

end Binary64
end WorkedEquations
