/-
The text of a shown number is canonical, and the number it stands for is the
exact one, correctly rounded.

`RoundsTo places q r` says that `r` is the number `q` rounded to a number of
places, a tie to the even step. It does not mention how the rounding is done,
and there is only one such number (`RoundsTo.unique`).

What is shown is that number (`roundsTo_shownValue`), with no zero too many,
neither in front nor at the end (`stepsNumeral_canonical`). `number_canonical`
puts text and number together, and says which two numbers are shown alike and
which are put into brackets.
-/
import Mathlib.Algebra.Group.Int.Even
import WorkedEquations.Proofs.Display.Rounded

namespace WorkedEquations

/-! ## Rounding to a number of places -/

namespace Display

/-- `r` is the number `q` rounded to places: a whole number of steps of `10 ^ -places` that is at
most half a step away, and an even number of them if it is exactly half a step away. -/
def RoundsTo (places : Nat) (q r : ℚ) : Prop :=
  ∃ n : ℤ, r = n / 10 ^ places ∧ |n - q * 10 ^ places| ≤ 1 / 2 ∧
    (|n - q * 10 ^ places| = 1 / 2 → Even n)

theorem RoundsTo.unique {places : Nat} {q r t : ℚ} (hr : RoundsTo places q r)
    (ht : RoundsTo places q t) : r = t := by
  obtain ⟨n, rfl, hn, hneven⟩ := hr
  obtain ⟨k, rfl, hk, hkeven⟩ := ht
  by_contra hne
  have hnk : n ≠ k := fun h => hne (by rw [h])
  have hapart : (1 : ℚ) ≤ |(n : ℚ) - k| := by
    exact_mod_cast Int.one_le_abs (sub_ne_zero.mpr hnk)
  have htriangle := abs_sub_le (n : ℚ) (q * 10 ^ places) k
  rw [abs_sub_comm (q * 10 ^ places)] at htriangle
  -- Whole numbers are one apart, so each is exactly a half away, and neighbours are not both even.
  obtain ⟨i, hi⟩ := hneven (by linarith)
  obtain ⟨j, hj⟩ := hkeven (by linarith)
  have hnear : |n - k| ≤ 1 := by
    have : |(n : ℚ) - k| ≤ 1 := by linarith
    exact_mod_cast this
  obtain ⟨hlow, hhigh⟩ := abs_le.mp hnear
  omega

/-- **What is shown is the exact number rounded.** -/
theorem roundsTo_shownValue (places : Nat) {x : Binary64} (hx : x.isFinite = true) :
    RoundsTo places x.toRat (shownValue places x) := by
  obtain ⟨s, m, rfl⟩ := Binary64.isFinite_iff.mp hx
  refine ⟨Binary64.signed s (steps places m), ?_, ?_⟩
  · rw [shownValue_finite, Binary64.cast_signed, mul_div_assoc]
  · rw [Binary64.cast_signed, Binary64.toRat_finite, mul_assoc, Binary64.abs_signOf_mul_sub]
    refine ⟨steps_sub_le places m, fun h => ?_⟩
    have heven : steps places m % 2 = 0 := steps_even h
    have hsteps : Even (steps places m : ℤ) := by exact_mod_cast Nat.even_iff.mpr heven
    cases s
    · exact hsteps
    · exact hsteps.neg

theorem roundsTo_iff (places : Nat) {x : Binary64} (hx : x.isFinite = true) {r : ℚ} :
    RoundsTo places x.toRat r ↔ r = shownValue places x := by
  constructor
  · intro hr
    exact hr.unique (roundsTo_shownValue places hx)
  · rintro rfl
    exact roundsTo_shownValue places hx

end Display

/-! ## Canonical texts -/

/-- A decimal without a zero too many: before the point there is a lone zero or no zero in front,
and behind it, if there is one, there are at most `places` digits and no zero at the end. -/
structure Numeral.Canonical (places : Nat) (n : Numeral) : Prop where
  digits : ∀ c ∈ n.digits, c.isDigit = true
  whole : n.whole = ['0'] ∨ ∃ first rest, n.whole = first :: rest ∧ first ≠ '0'
  fraction : ∀ ds ∈ n.fraction, ds.length ≤ places ∧ ∃ before last, ds = before ++ [last] ∧ last ≠ '0'

/-- A canonical decimal with a minus or without a sign, and no minus before a lone zero. -/
structure Constant.Canonical (places : Nat) (k : Constant) : Prop where
  numeral : k.numeral.Canonical places
  sign : k.sign = none ∨ k.sign = some .minus
  no_negative_zero : k.text ≠ ['-', '0']

theorem exists_toDigits_eq_cons {n : Nat} (h : n ≠ 0) :
    ∃ first rest, Nat.toDigits 10 n = first :: rest ∧ first ≠ '0' := by
  induction n using Nat.strong_induction_on with
  | h n ih =>
    rcases Nat.lt_or_ge n 10 with hlt | hge
    · have hdigit : ∀ d < 10, d ≠ 0 → Nat.digitChar d ≠ '0' := by decide
      exact ⟨n.digitChar, [], Nat.toDigits_of_lt_base hlt, hdigit n hlt h⟩
    · obtain ⟨first, rest, hdigits, hfirst⟩ := ih (n / 10) (by omega) (by omega)
      exact ⟨first, rest ++ [(n % 10).digitChar],
        by rw [Nat.toDigits_of_base_le (by decide) hge, hdigits, List.cons_append], hfirst⟩

namespace Display

theorem exists_fractionDigits_eq_append {places fraction : Nat} (h0 : fraction ≠ 0)
    (h : fraction < 10 ^ places) :
    ∃ before last, fractionDigits places fraction = before ++ [last] ∧ last ≠ '0' := by
  obtain ⟨k, -, hvalue⟩ := fractionDigits_value h0 h
  have hne : fractionDigits places fraction ≠ [] := by
    intro hnil
    rw [hnil, Nat.ofDigitChars_nil, Nat.mul_zero] at hvalue
    exact h0 hvalue.symm
  have hlast := List.getLast?_eq_some_getLast hne
  refine ⟨_, _, (List.dropLast_append_getLast hne).symm, fun hzero => ?_⟩
  -- What comes last was first when the zeros were taken away from the other end.
  rw [hzero, fractionDigits, List.getLast?_reverse] at hlast
  exact absurd (head?_dropWhile _ '0' hlast) (by decide)

theorem stepsNumeral_canonical (places n : Nat) : (stepsNumeral places n).Canonical places where
  digits := (stepsNumeral_valid places n).2
  whole := by
    by_cases h0 : n / 10 ^ places = 0
    · exact .inl (by rw [stepsNumeral, h0, Nat.toDigits_zero])
    · exact .inr (exists_toDigits_eq_cons h0)
  fraction := by
    intro ds hds
    unfold stepsNumeral at hds
    split at hds
    next => cases hds
    next h0 =>
      cases hds
      have hlt : n % 10 ^ places < 10 ^ places := Nat.mod_lt n (by positivity)
      obtain ⟨k, hlength, -⟩ := fractionDigits_value h0 hlt
      exact ⟨by omega, exists_fractionDigits_eq_append h0 hlt⟩

/-- **A shown number is a canonical decimal.** -/
theorem shown_canonical (places : Nat) {x : Binary64} (hx : x.isFinite = true) :
    (shown places x).Canonical places where
  numeral := stepsNumeral_canonical places _
  sign := shown_sign places x
  no_negative_zero := by
    intro htext
    have hminus : (shown places x).text.head? = some '-' := by rw [htext]; rfl
    have hneg := (shownValue_neg_iff places hx).mpr
      ((Constant.head?_text_iff (shown_valid places x)).mp hminus)
    have hvalid : (⟨some .minus, ⟨['0'], none⟩⟩ : Constant).Valid Char.isDigit := by
      simp [Constant.Valid, Numeral.Valid, Numeral.digits]
    have hvalue := Constant.value_eq_of_text (shown_valid places x) hvalid htext
    rw [shownValue, hvalue] at hneg
    simp [Constant.value, Numeral.value, Numeral.digits, Nat.ofDigitChars_cons] at hneg

/-- The brackets of a factor stand around a number that is rounded to a negative one. -/
theorem factor_eq (places : Nat) {x : Binary64} (hx : x.isFinite = true) : factor places x =
    if shownValue places x < 0 then "(" ++ number places x ++ ")" else number places x := by
  simp only [factor, head?_number_iff places hx]
  rfl

/-- **Shown numbers.** The text of a finite number is a canonical decimal, and it stands for the
number rounded to places and for nothing else; a factor has brackets exactly if that is negative.
Two numbers are shown alike exactly if they are rounded to one decimal. -/
theorem number_canonical (places : Nat) :
    (∀ x : Binary64, x.isFinite = true → ∃ k : Constant, k.Canonical places ∧
      (number places x).toList = k.text ∧ (∀ r, RoundsTo places x.toRat r ↔ r = k.value) ∧
      factor places x =
        if k.value < 0 then "(" ++ number places x ++ ")" else number places x) ∧
    ∀ x y : Binary64, x.isFinite = true → y.isFinite = true →
      (number places x = number places y ↔
        ∃ r, RoundsTo places x.toRat r ∧ RoundsTo places y.toRat r) := by
  constructor
  · intro x hx
    exact ⟨shown places x, shown_canonical places hx, toList_number places hx,
      fun r => roundsTo_iff places hx, factor_eq places hx⟩
  · intro x y hx hy
    simp only [number_eq_number_iff places hx hy, roundsTo_iff places hx, roundsTo_iff places hy]
    exact ⟨fun h => ⟨_, rfl, h⟩, fun ⟨r, hr, ht⟩ => hr.symm.trans ht⟩

/-- Minus five halves and minus three halves are both rounded to the even number between them. -/
theorem number_canonical_halves :
    let x := Binary64.ofDecimal true 25 (-1)
    let y := Binary64.ofDecimal true 15 (-1)
    x.isFinite = true ∧ y.isFinite = true ∧ number 0 x = "-2" ∧ number 0 y = "-2" ∧
      (∃ k : Constant, k.Canonical 0 ∧ "-2".toList = k.text ∧
        (∀ r, RoundsTo 0 x.toRat r ↔ r = k.value) ∧
        factor 0 x = if k.value < 0 then "(-2)" else "-2") ∧
      ∃ r, RoundsTo 0 x.toRat r ∧ RoundsTo 0 y.toRat r := by
  intro x y
  have hx : x.isFinite = true := by decide +kernel
  have hy : y.isFinite = true := by decide +kernel
  have hxtext : number 0 x = "-2" := by decide +kernel
  have hytext : number 0 y = "-2" := by decide +kernel
  refine ⟨hx, hy, hxtext, hytext, ?_, ((number_canonical 0).2 x y hx hy).mp (hxtext.trans hytext.symm)⟩
  have h := (number_canonical 0).1 x hx
  rwa [hxtext] at h

end Display
end WorkedEquations
