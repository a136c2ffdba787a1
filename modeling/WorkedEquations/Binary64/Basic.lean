/-
Binary64 numbers: the finite ones with their exact values, the two infinities
and one NaN.

A finite magnitude is `digits * 2 ^ scale` units, a unit being `2 ^ -1074`,
the smallest positive number of the format. Every magnitude has one normal
form, so two finite numbers are equal exactly if sign and value are; zero has
two signs.
-/

namespace WorkedEquations

/-- A finite magnitude in normal form: `digits * 2 ^ scale` units of `2 ^ -1074`. -/
structure Magnitude where
  digits : Nat
  scale : Nat
  digits_lt : digits < 1 <<< 53
  scale_le : scale ≤ 2045
  normal : scale = 0 ∨ 1 <<< 52 ≤ digits
deriving DecidableEq

namespace Magnitude

/-- Units in the number one. -/
def one : Nat := 1 <<< 1074

/-- The magnitude as a whole number of units. -/
def units (m : Magnitude) : Nat := m.digits <<< m.scale

def zero : Magnitude := ⟨0, 0, by decide, by decide, .inl rfl⟩

instance : Inhabited Magnitude := ⟨zero⟩

/-- The magnitude with these digits and this scale, if they are in normal form. -/
def of? (digits scale : Nat) : Option Magnitude :=
  if h : digits < 1 <<< 53 ∧ scale ≤ 2045 ∧ (scale = 0 ∨ 1 <<< 52 ≤ digits) then
    some ⟨digits, scale, h.1, h.2.1, h.2.2⟩
  else none

end Magnitude

/-- A binary64 number. -/
inductive Binary64 where
  | nan
  | infinite (negative : Bool)
  | finite (negative : Bool) (magnitude : Magnitude)
deriving DecidableEq

namespace Binary64

/-- Zero of the given sign. -/
def signedZero (negative : Bool) : Binary64 := .finite negative .zero

instance : Inhabited Binary64 := ⟨signedZero false⟩

def isNaN : Binary64 → Bool
  | .nan => true
  | _ => false

def isFinite : Binary64 → Bool
  | .finite .. => true
  | _ => false

/-- The number with the other sign. -/
def neg : Binary64 → Binary64
  | .nan => .nan
  | .infinite s => .infinite !s
  | .finite s m => .finite (!s) m

instance : Neg Binary64 := ⟨neg⟩

/-- The number without its sign. -/
def abs : Binary64 → Binary64
  | .nan => .nan
  | .infinite _ => .infinite false
  | .finite _ m => .finite false m

/-! ## The 64 bits -/

/-- The number the bits stand for: a sign, eleven bits of exponent, 52 of fraction. -/
def ofBits (bits : UInt64) : Binary64 :=
  let word := bits.toNat
  let negative := decide (1 <<< 63 ≤ word)
  let exponent := (word >>> 52) % 2048
  let fraction := word % (1 <<< 52)
  if exponent = 2047 then
    if fraction = 0 then .infinite negative else .nan
  else if exponent = 0 then .finite negative ((Magnitude.of? fraction 0).getD .zero)
  else .finite negative ((Magnitude.of? (1 <<< 52 + fraction) (exponent - 1)).getD .zero)

/-- The bits of a magnitude. -/
def magnitudeBits (m : Magnitude) : Nat :=
  if m.digits < 1 <<< 52 then m.digits else (m.scale + 1) <<< 52 + (m.digits - 1 <<< 52)

/-- The bits of the number; NaN is the quiet one without a payload. -/
def toBits (x : Binary64) : UInt64 :=
  let word (negative : Bool) (rest : Nat) : UInt64 :=
    UInt64.ofNat ((if negative then 1 <<< 63 else 0) + rest)
  match x with
  | .nan => word false (2047 <<< 52 + 1 <<< 51)
  | .infinite s => word s (2047 <<< 52)
  | .finite s m => word s (magnitudeBits m)

end Binary64
end WorkedEquations
