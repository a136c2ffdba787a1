/-
Every number is read back from its plain text.

The plain text of a decimal is a numeral of exactly that value, with zeros
before or behind the digits as needed (`Decimal.numeral_value`). Reading the
plain text of any number, the infinities and NaN among them, gives the number,
its sign included, whoever reads it, as long as decimals are rounded correctly
(`Binary64.RoundsCorrectly.read_plainText`).
-/
import WorkedEquations.Decimal.Layout
import WorkedEquations.Proofs.Decimal.Shortest
import WorkedEquations.Proofs.Display.Shown

namespace WorkedEquations

/-! ## Plain decimals as numerals -/

namespace Decimal

/-- Digits with a point before the last `places` of them, and zeros in front. -/
def pointNumeral (digits : List Char) (places : Nat) : Numeral :=
  let padded := List.replicate (places + 1 - digits.length) '0' ++ digits
  ⟨padded.take (padded.length - places), some (padded.drop (padded.length - places))⟩

theorem pointNumeral_text (digits : List Char) (places : Nat) :
    (pointNumeral digits places).text = (pointText digits places).toList := by
  simp only [pointNumeral, Numeral.text, pointText, String.toList_ofList]

theorem pointNumeral_digits (digits : List Char) (places : Nat) :
    (pointNumeral digits places).digits =
      List.replicate (places + 1 - digits.length) '0' ++ digits := by
  simp only [pointNumeral, Numeral.digits, Option.getD_some, List.take_append_drop]

theorem pointNumeral_places (digits : List Char) (places : Nat) :
    ((pointNumeral digits places).fraction.getD []).length = places := by
  simp only [pointNumeral, Option.getD_some, List.length_drop, List.length_append,
    List.length_replicate]
  omega

/-- The decimal in full, as a numeral. -/
def numeral (d : Decimal) : Numeral :=
  if 0 ≤ d.exponent then ⟨Nat.toDigits 10 d.digits ++ List.replicate d.exponent.toNat '0', none⟩
  else pointNumeral (Nat.toDigits 10 d.digits) (-d.exponent).toNat

theorem numeral_text (d : Decimal) : d.numeral.text = (positionalText inFull d).toList := by
  unfold numeral positionalText
  split
  · simp [Numeral.text, wholeText, inFull]
  · exact pointNumeral_text _ _

theorem numeral_valid (d : Decimal) : d.numeral.Valid Char.isDigit := by
  have hdigits : ∀ c ∈ Nat.toDigits 10 d.digits, c.isDigit = true := fun c hc =>
    Nat.isDigit_of_mem_toDigits (by decide) (by decide) hc
  have hzeros : ∀ k, ∀ c ∈ List.replicate k '0', c.isDigit = true := by
    intro k c hc
    rw [List.eq_of_mem_replicate hc]
    decide
  unfold numeral
  split
  · refine ⟨by simp [Numeral.digits, Nat.toDigits_ne_nil], fun c hc => ?_⟩
    simp only [Numeral.digits, Option.getD_none, List.append_nil, List.mem_append] at hc
    exact hc.elim (hdigits c) (hzeros _ c)
  · rw [Numeral.Valid, pointNumeral_digits]
    refine ⟨by simp [Nat.toDigits_ne_nil], fun c hc => ?_⟩
    exact (List.mem_append.mp hc).elim (hzeros _ c) (hdigits c)

/-- **The plain text of a decimal has exactly its value.** -/
theorem numeral_value (d : Decimal) : d.numeral.value = d.value := by
  unfold numeral
  split
  next h =>
    obtain ⟨e, he⟩ := Int.eq_ofNat_of_zero_le h
    simp only [Numeral.value, Numeral.digits, Option.getD_none, List.append_nil, List.length_nil,
      pow_zero, div_one, Nat.ofDigitChars_append, Nat.ofDigitChars_replicate_zero,
      Nat.ofDigitChars_ten_toDigits, value, he, Int.toNat_natCast, zpow_natCast]
    push_cast
    ring
  next h =>
    obtain ⟨e, he⟩ : ∃ e : Nat, d.exponent = -e := ⟨(-d.exponent).toNat, by omega⟩
    rw [Numeral.value, pointNumeral_digits, pointNumeral_places, value, he, neg_neg,
      Int.toNat_natCast, zpow_neg, zpow_natCast, ← div_eq_mul_inv]
    simp only [Nat.ofDigitChars_append, Nat.ofDigitChars_replicate_zero, Nat.mul_zero,
      Nat.ofDigitChars_ten_toDigits]

end Decimal

/-! ## Reading plain texts -/

namespace Binary64

/-- A finite number as a constant: a minus if it has one, and its decimal. -/
def plainConstant (s : Bool) (m : Magnitude) : Constant :=
  ⟨if s then some .minus else none, (Decimal.shortest m).numeral⟩

theorem plainConstant_text (s : Bool) (m : Magnitude) :
    (plainConstant s m).text = (finite s m).plainText.toList := by
  have hnumeral : ((Decimal.shortest m).text Decimal.inFull).toList =
      (Decimal.shortest m).numeral.text := (Decimal.numeral_text _).symm
  cases s <;>
    simp [plainConstant, Constant.text, Sign.text, Sign.toChar, plainText, text,
      String.toList_append, hnumeral]

/-- A reader of numbers that rounds correctly: a decimal is read as its value rounded once, under
its sign, and the words for the infinities and for NaN as these. -/
structure RoundsCorrectly (read : List Char → Option Binary64) : Prop where
  decimal : ∀ k : Constant, k.Valid Char.isDigit →
    ∃ x, read k.text = some x ∧ x.IsRounding (k.sign = some .minus) k.numeral.value
  infinity : read ['i', 'n', 'f'] = some (.infinite false)
  minusInfinity : read ['-', 'i', 'n', 'f'] = some (.infinite true)
  notANumber : read ['N', 'a', 'N'] = some .nan

theorem roundsCorrectly_ofText? : RoundsCorrectly ofText? where
  decimal _ hk := ⟨_, ofText?_text hk, digitsValue_isRounding _ _⟩
  infinity := by decide
  minusInfinity := by decide
  notANumber := by decide

/-- **Every number is read back from its plain text** by a reader that rounds correctly. -/
theorem RoundsCorrectly.read_plainText {read : List Char → Option Binary64}
    (h : RoundsCorrectly read) (x : Binary64) : read x.plainText.toList = some x := by
  cases x with
  | nan => exact h.notANumber
  | infinite s =>
    cases s with
    | false => exact h.infinity
    | true => exact h.minusInfinity
  | finite s m =>
    obtain ⟨x, hx, hround⟩ := h.decimal (plainConstant s m) (Decimal.numeral_valid _)
    have hsign : decide ((plainConstant s m).sign = some .minus) = s := by cases s <;> rfl
    have hvalue : (plainConstant s m).numeral.value = (Decimal.shortest m).value :=
      Decimal.numeral_value _
    rw [hsign, hvalue] at hround
    rw [← plainConstant_text, hx, hround.unique (.finite (Decimal.isNearest_shortest m))]

theorem ofText?_plainText (x : Binary64) : ofText? x.plainText.toList = some x :=
  roundsCorrectly_ofText?.read_plainText x

end Binary64
end WorkedEquations
