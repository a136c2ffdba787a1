/-
What stays in range, and on which side of a number rounding ends.

A result is finite exactly if the exact number is below the overflow threshold,
so a bound on exact numbers decides. Below a midpoint rounding does not reach
the upper of the two numbers.

The threshold is in `Rounds.isFinite_iff`, the midpoint in
`Magnitude.IsNearest.lt_of_lt_midpoint`. A formula is followed through its
operations with `mul_in_range` and `add_in_range`, which bound what they give.
Doubling is exact below `2 ^ 1023` (`isFinite_two_mul_iff`), and a whole
multiple has a relative error only (`toRat_mul_sub_le_of_nat`).
-/
import WorkedEquations.Proofs.Binary64.Value

namespace WorkedEquations

namespace Magnitude

/-- A quarter of the first power of two that is out of range. -/
def room : ℚ := 2 ^ 1022

theorem le_room {k : Nat} (hk : k ≤ 1022) : 2 ^ k ≤ room := pow_le_pow_right₀ one_le_two hk

theorem two_mul_room : 2 * room = 2 ^ 1023 := (pow_succ' _ _).symm

/-- Of the four quarters all but a little is in range. -/
theorem lt_overflow_of_le {q : ℚ} (h : q ≤ 15 / 4 * room) : q < overflow := by
  have hpow : (2 : ℚ) ^ 52 * 2 ^ 970 = room := by rw [room, ← pow_add]
  have hpos : (0 : ℚ) < 2 ^ 970 := by positivity
  rw [← hpow] at h
  rw [overflow]
  generalize (2 : ℚ) ^ 970 = a at *
  linarith only [h, hpos]

/-- Below `2 ^ 1023` the next number is at least a step of `2 ^ 970` away, so twice as much is in
range. -/
theorem two_mul_value_lt_overflow {m : Magnitude} (h : m.value < 2 ^ 1023) :
    2 * m.value < overflow := by
  have hone := one_pos
  have hunits : m.units < 2 ^ 53 * 2 ^ 2044 := by
    have hpow : (2 : ℚ) ^ 1023 * 2 ^ 1074 = 2 ^ 53 * 2 ^ 2044 := by rw [← pow_add, ← pow_add]
    rw [value, div_lt_iff₀ hone, cast_one, hpow] at h
    exact_mod_cast h
  have hsteps : m.units ≤ (2 ^ 53 - 1) * 2 ^ 2044 := by
    rcases m.units_grid 2044 with ⟨k, hk, -⟩ | ⟨-, hlow⟩
    · rw [hk] at hunits ⊢
      have := Nat.lt_of_mul_lt_mul_right hunits
      exact Nat.mul_le_mul_right _ (by omega)
    · exact hlow.le.trans (Nat.mul_le_mul_right _ (by decide))
  have hcast : (m.units : ℚ) ≤ (2 ^ 53 - 1) * 2 ^ 2044 := by
    have := Nat.cast_le (α := ℚ).mpr hsteps
    rwa [Nat.cast_mul, cast_two_pow, Nat.cast_sub (by decide), cast_two_pow, Nat.cast_one] at this
  have hstep : (0 : ℚ) < 2 ^ 2044 := by positivity
  have hdouble : (2 : ℚ) ^ 2045 = 2 * 2 ^ 2044 := pow_succ' _ _
  rw [← mul_lt_mul_iff_left₀ hone, overflow_mul_one, value, mul_assoc, div_mul_cancel₀ _ hone.ne',
    hdouble]
  generalize (2 : ℚ) ^ 2044 = step at *
  linarith only [hcast, hstep]

/-- **Below the midpoint** of two magnitudes rounding does not reach the upper one. -/
theorem IsNearest.lt_of_lt_midpoint {q : ℚ} {m low high : Magnitude} (h : m.IsNearest q)
    (hlt : low.value < high.value) (hq : q < (low.value + high.value) / 2) :
    m.value < high.value := by
  by_contra hle
  have hle := le_of_not_gt hle
  have hnear := h.nearest low
  rw [abs_of_nonneg (by linarith)] at hnear
  rcases abs_cases (low.value - q) with ⟨habs, -⟩ | ⟨habs, -⟩ <;> rw [habs] at hnear <;> linarith

end Magnitude

namespace Binary64

open Magnitude (one overflow room)

section
variable {x y : Binary64} {q : ℚ}

theorem rounds_toRat (hx : x.isFinite = true) : x.Rounds x.toRat := by
  obtain ⟨s, m, rfl⟩ := isFinite_iff.mp hx
  exact ⟨s, m.value, value_nonneg m, .finite m.isNearest_value, rfl⟩

theorem Rounds.exists_isNearest_abs (h : x.Rounds q) (hx : x.isFinite = true) :
    ∃ m : Magnitude, m.IsNearest |q| ∧ |x.toRat| = m.value := by
  obtain ⟨s, m, p, h0, hm, rfl, hvalue⟩ := h.exists_isNearest hx
  rw [abs_signOf_mul s h0, hvalue, abs_signOf_mul s (value_nonneg m)]
  exact ⟨m, hm, rfl⟩

/-- **A rounded number is finite exactly below the threshold.** -/
theorem Rounds.isFinite_iff (h : x.Rounds q) : x.isFinite = true ↔ |q| < overflow := by
  refine ⟨fun hx => ?_, h.isFinite⟩
  obtain ⟨m, hm, -⟩ := h.exists_isNearest_abs hx
  exact hm.in_range

theorem Rounds.abs_toRat_le (h : x.Rounds q) (hx : x.isFinite = true) :
    |x.toRat| ≤ |q| * (1 + roundoff) + underflow := by
  have herror := h.abs_sub_le hx
  have hsize := abs_sub_abs_le_abs_sub x.toRat q
  linarith

theorem Rounds.abs_toRat_rough (h : x.Rounds q) (hx : x.isFinite = true) :
    |x.toRat| ≤ 11 / 10 * |q| + 1 ∧ |q| ≤ 11 / 10 * |x.toRat| + 1 := by
  have herror := h.abs_sub_le hx
  have hsize := abs_sub_abs_le_abs_sub q x.toRat
  have hq := abs_nonneg q
  have hsmall : underflow ≤ 1 / 2 ^ 53 := underflow_le (by decide)
  have hround := h.abs_toRat_le hx
  rw [abs_sub_comm] at hsize
  rw [roundoff] at herror hround
  constructor <;> linarith

theorem mul_in_range (hx : x.isFinite = true) (hy : y.isFinite = true)
    (h : |x.toRat| * |y.toRat| ≤ 15 / 4 * room) : (x * y).isFinite = true ∧
      |(x * y).toRat| ≤ 11 / 10 * (|x.toRat| * |y.toRat|) + 1 := by
  have hround := rounds_mul hx hy
  rw [← abs_mul] at h ⊢
  have hfinite := hround.isFinite (Magnitude.lt_overflow_of_le h)
  exact ⟨hfinite, (hround.abs_toRat_rough hfinite).1⟩

theorem add_in_range (hx : x.isFinite = true) (hy : y.isFinite = true)
    (h : |x.toRat| + |y.toRat| ≤ 15 / 4 * room) : (x + y).isFinite = true ∧
      |(x + y).toRat| ≤ 11 / 10 * (|x.toRat| + |y.toRat|) + 1 := by
  have hround := rounds_add hx hy
  have hsize := abs_add_le x.toRat y.toRat
  have hfinite := hround.isFinite (Magnitude.lt_overflow_of_le (hsize.trans h))
  have hrough := (hround.abs_toRat_rough hfinite).1
  exact ⟨hfinite, by linarith⟩

theorem pos_iff_toRat (hx : x.isFinite = true) : 0 < x ↔ 0 < x.toRat := by
  rw [lt_iff_toRat rfl hx, toRat_zero]

theorem isFinite_of_pos_of_le (h0 : 0 < x) (h : x ≤ y) (hy : y.isFinite = true) :
    x.isFinite = true := by
  cases x with
  | nan => cases h0
  | infinite s =>
    cases s with
    | false => exact isFinite_of_abs_le h hy
    | true => exact absurd h0 (by decide)
  | finite s m => rfl

theorem isFinite_two : (2 : Binary64).isFinite = true := (toRat_ofNat (by decide)).1

theorem toRat_two : (2 : Binary64).toRat = 2 := toRat_lit 2 (by decide)

theorem toRat_two_mul (h : (2 * x).isFinite = true) : (2 * x).toRat = 2 * x.toRat := by
  rw [toRat_mul_of_two_pow (k := 1) (by rw [toRat_two, pow_one]) h, toRat_two]

/-- **Doubling** stays in range exactly below `2 ^ 1023`, and is exact there. -/
theorem isFinite_two_mul_iff (hx : x.isFinite = true) :
    (2 * x).isFinite = true ↔ |x.toRat| < 2 ^ 1023 := by
  constructor
  · intro h
    have hlt := (2 * x).abs_toRat_lt
    have hdouble : (2 : ℚ) ^ 1024 = 2 * 2 ^ 1023 := pow_succ' _ _
    rw [toRat_two_mul h, abs_mul, abs_two, hdouble] at hlt
    exact lt_of_mul_lt_mul_left hlt two_pos.le
  · intro h
    obtain ⟨s, m, rfl⟩ := isFinite_iff.mp hx
    refine (rounds_mul isFinite_two hx).isFinite ?_
    rw [toRat_finite, abs_signOf_mul s (value_nonneg m)] at h
    rw [toRat_two, toRat_finite, abs_mul, abs_two, abs_signOf_mul s (value_nonneg m)]
    exact Magnitude.two_mul_value_lt_overflow h

/-- **A whole multiple** is a whole number of units, so its error is relative. -/
theorem toRat_mul_sub_le_of_nat {n : Nat} (hx : x.toRat = n) (h : (x * y).isFinite = true) :
    |(x * y).toRat - n * y.toRat| ≤ n * |y.toRat| * roundoff := by
  obtain ⟨hxf, hyf⟩ := isFinite_of_mul h
  obtain ⟨t, m, p, h0, hm, hexact, hvalue⟩ := (rounds_mul hxf hyf).exists_isNearest h
  obtain ⟨s, k, rfl⟩ := isFinite_iff.mp hyf
  have hone := Magnitude.one_pos
  have hp : p = n * k.value := by
    have habs := congrArg (|·|) hexact
    rw [abs_signOf_mul t h0, hx, toRat_finite, abs_mul, abs_signOf_mul s (value_nonneg k),
      Nat.abs_cast] at habs
    exact habs.symm
  have herror := hm.abs_sub_le_of_units (k := n * k.units) (by
    rw [hp, Magnitude.value, mul_assoc, div_mul_cancel₀ _ hone.ne', Nat.cast_mul])
  have hsign : |signOf t| = 1 := by cases t <;> simp [signOf]
  rw [← hx, hexact, hvalue, ← mul_sub, abs_mul, hsign, one_mul, toRat_finite,
    abs_signOf_mul s (value_nonneg k), hx, ← hp]
  exact herror

end

end Binary64
end WorkedEquations
