/-
Whole numbers nearest a quotient or a square root.
-/

namespace WorkedEquations

/-- The whole number nearest `num / den`, the even one of two equally near. -/
def nearestEven (num den : Nat) : Nat :=
  let quotient := num / den
  let rest := num % den
  if 2 * rest < den then quotient
  else if den < 2 * rest then quotient + 1
  else if quotient % 2 = 0 then quotient
  else quotient + 1

/-- The whole number nearest `num / den`, the greater one of two equally near. -/
def nearestUp (num den : Nat) : Nat := (2 * num + den) / (2 * den)

/-- The greatest whole number whose square is at most `n`, for `n < 4 ^ pairs`: one binary digit
of the root for each pair of binary digits. -/
def floorSqrtBelow : (pairs n : Nat) → Nat
  | 0, _ => 0
  | pairs + 1, n =>
    let root := 2 * floorSqrtBelow pairs (n / 4)
    if (root + 1) * (root + 1) ≤ n then root + 1 else root

/-- The greatest whole number whose square is at most `n`. -/
def floorSqrt (n : Nat) : Nat := floorSqrtBelow (n.log2 / 2 + 1) n

end WorkedEquations
