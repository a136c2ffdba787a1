/-
A shown finite number is a constant of the grammar: an optional minus and a
numeral in ASCII digits.

The numeral of `n` steps of `10 ^ -places` stands for exactly that many, as the
zeros cut off its end do not count (`stepsNumeral_value`). It stands for a
finite number, since rounding to places never goes past the largest one, and
reading the text gives that number (`shown_denotes`). Behind a term the sign
stands apart, and the number read is the same, except that a zero may have the
other sign (`joined_denotes`).
-/
import WorkedEquations.Display.Number
import WorkedEquations.Proofs.Binary64.Exact
import WorkedEquations.Proofs.Equation.Acceptance

namespace WorkedEquations

/-! ## Steps as a numeral -/

namespace Display

/-- A whole number of steps of `10 ^ -places` as a numeral. -/
def stepsNumeral (places n : Nat) : Numeral where
  whole := Nat.toDigits 10 (n / 10 ^ places)
  fraction := if n % 10 ^ places = 0 then none else some (fractionDigits places (n % 10 ^ places))

theorem stepsNumeral_text (places n : Nat) : (stepsNumeral places n).text = stepsText places n := by
  simp only [stepsNumeral, Numeral.text, stepsText, Nat.pow_eq]
  by_cases h : n % 10 ^ places = 0 <;> simp [h]

theorem fractionDigits_append_zeros (places fraction : Nat) : ∃ k,
    fractionDigits places fraction ++ List.replicate k '0' =
      List.replicate (places - (Nat.toDigits 10 fraction).length) '0' ++ Nat.toDigits 10 fraction := by
  simp only [fractionDigits]
  generalize List.replicate (places - (Nat.toDigits 10 fraction).length) '0' ++
    Nat.toDigits 10 fraction = padded
  have hsplit := List.takeWhile_append_dropWhile (p := (· == '0')) (l := padded.reverse)
  have hzeros : padded.reverse.takeWhile (· == '0') =
      List.replicate (padded.reverse.takeWhile (· == '0')).length '0' := by
    rw [List.eq_replicate_iff]
    refine ⟨rfl, fun c hc => ?_⟩
    have := List.all_eq_true.mp List.all_takeWhile c hc
    simpa using this
  refine ⟨(padded.reverse.takeWhile (· == '0')).length, ?_⟩
  rw [← List.reverse_replicate, ← hzeros, ← List.reverse_append, hsplit, List.reverse_reverse]

theorem length_toDigits_le {places fraction : Nat} (h0 : fraction ≠ 0) (h : fraction < 10 ^ places) :
    (Nat.toDigits 10 fraction).length ≤ places := by
  have hplaces : 0 < places := by
    rcases Nat.eq_zero_or_pos places with rfl | hp
    · omega
    · exact hp
  exact (Nat.length_toDigits_le_iff (by decide) hplaces).mpr h

/-- What is left of a fraction after the cut: its digits, with the zeros that were cut off, make
the fraction again. -/
theorem fractionDigits_value {places fraction : Nat} (h0 : fraction ≠ 0) (h : fraction < 10 ^ places) :
    ∃ k, (fractionDigits places fraction).length + k = places ∧
      10 ^ k * Nat.ofDigitChars 10 (fractionDigits places fraction) 0 = fraction := by
  obtain ⟨k, hk⟩ := fractionDigits_append_zeros places fraction
  refine ⟨k, ?_, ?_⟩
  · have hlength := congrArg List.length hk
    simp only [List.length_append, List.length_replicate] at hlength
    have := length_toDigits_le h0 h
    omega
  · have hvalue := congrArg (Nat.ofDigitChars 10 · 0) hk
    simpa only [Nat.ofDigitChars_append, Nat.ofDigitChars_replicate_zero, Nat.mul_zero,
      Nat.ofDigitChars_ten_toDigits] using hvalue

theorem isDigit_of_mem_fractionDigits {places fraction : Nat} {c : Char}
    (h : c ∈ fractionDigits places fraction) : c.isDigit = true := by
  obtain ⟨k, hk⟩ := fractionDigits_append_zeros places fraction
  have hmem : c ∈ fractionDigits places fraction ++ List.replicate k '0' := List.mem_append_left _ h
  rw [hk, List.mem_append] at hmem
  rcases hmem with hmem | hmem
  · rw [List.eq_of_mem_replicate hmem]
    decide
  · exact Nat.isDigit_of_mem_toDigits (by decide) (by decide) hmem

theorem stepsNumeral_valid (places n : Nat) : (stepsNumeral places n).Valid Char.isDigit := by
  have hwhole : ∀ c ∈ Nat.toDigits 10 (n / 10 ^ places), c.isDigit = true := fun c hc =>
    Nat.isDigit_of_mem_toDigits (by decide) (by decide) hc
  refine ⟨by simp [stepsNumeral, Numeral.digits, Nat.toDigits_ne_nil], fun c hc => ?_⟩
  simp only [stepsNumeral, Numeral.digits, List.mem_append] at hc
  rcases hc with hc | hc
  · exact hwhole c hc
  · by_cases h : n % 10 ^ places = 0
    · simp [h] at hc
    · simp only [h, if_false, Option.getD_some] at hc
      exact isDigit_of_mem_fractionDigits hc

/-- **The numeral of a number of steps stands for exactly that many.** -/
theorem stepsNumeral_value (places n : Nat) : (stepsNumeral places n).value = n / 10 ^ places := by
  have hpow : (10 : ℚ) ^ places ≠ 0 := by positivity
  have hn : ((10 ^ places * (n / 10 ^ places) + n % 10 ^ places : Nat) : ℚ) = n := by
    rw [Nat.div_add_mod]
  push_cast at hn
  by_cases h : n % 10 ^ places = 0
  · simp only [Numeral.value, Numeral.digits, stepsNumeral, h, if_true, Option.getD_none,
      List.append_nil, List.length_nil, pow_zero, div_one, Nat.ofDigitChars_ten_toDigits]
    rw [h, Nat.cast_zero, add_zero] at hn
    rw [← hn]
    field_simp
  · obtain ⟨k, hlength, hvalue⟩ := fractionDigits_value h (Nat.mod_lt n (by positivity))
    simp only [Numeral.value, Numeral.digits, stepsNumeral, h, if_false, Option.getD_some,
      Nat.ofDigitChars_append, Nat.ofDigitChars_ten_toDigits]
    rw [Nat.ofDigitChars_eq_ofDigitChars_zero]
    generalize (fractionDigits places (n % 10 ^ places)).length = l at *
    have hvalue : (10 : ℚ) ^ k * Nat.ofDigitChars 10 (fractionDigits places (n % 10 ^ places)) 0 =
        (n % 10 ^ places : Nat) := by exact_mod_cast hvalue
    have hsplit : (10 : ℚ) ^ places = 10 ^ l * 10 ^ k := by rw [← hlength, pow_add]
    rw [← hn, ← hvalue, hsplit]
    push_cast
    field_simp

end Display

/-! ## Rounding to places stays in range -/

namespace Display

theorem steps_sub_le (places : Nat) (m : Magnitude) :
    |(steps places m : ℚ) - m.value * 10 ^ places| ≤ 1 / 2 := by
  have hone : 0 < Magnitude.one := by exact_mod_cast Magnitude.one_pos
  have h := nearestEven_sub_le (m.units * 10 ^ places) hone
  rwa [Nat.cast_mul, Nat.cast_pow, Nat.cast_ofNat, mul_div_right_comm] at h

theorem steps_even {places : Nat} {m : Magnitude}
    (h : |(steps places m : ℚ) - m.value * 10 ^ places| = 1 / 2) : steps places m % 2 = 0 := by
  have hone : 0 < Magnitude.one := by exact_mod_cast Magnitude.one_pos
  refine nearestEven_even (m.units * 10 ^ places) hone ?_
  rwa [Nat.cast_mul, Nat.cast_pow, Nat.cast_ofNat, mul_div_right_comm]

/-- **Rounding to places does not overflow.** -/
theorem steps_div_lt_overflow (places : Nat) (m : Magnitude) :
    (steps places m : ℚ) / 10 ^ places < Magnitude.overflow := by
  have hpow : (1 : ℚ) ≤ 10 ^ places := one_le_pow₀ (by norm_num)
  have hsteps := (abs_le.mp (steps_sub_le places m)).2
  have hroom := m.value_add_half_lt_overflow
  rw [div_lt_iff₀ (by positivity)]
  calc (steps places m : ℚ) ≤ m.value * 10 ^ places + 1 / 2 := by linarith
    _ ≤ m.value * 10 ^ places + 1 / 2 * 10 ^ places := by linarith
    _ = (m.value + 1 / 2) * 10 ^ places := by ring
    _ < Magnitude.overflow * 10 ^ places := by
      apply mul_lt_mul_of_pos_right hroom
      positivity

theorem steps_eq_zero (places : Nat) {m : Magnitude} (h : m.units = 0) : steps places m = 0 := by
  rw [steps, h, Nat.zero_mul]
  simp [nearestEven, Magnitude.one]

end Display

theorem Numeral.Valid.toNat_lt {n : Numeral} (hn : n.Valid Char.isDigit) :
    ∀ c ∈ n.text, c.toNat < 0x3A := by
  have hdigit : ∀ c : Char, c.isDigit = true → c.toNat < 0x3A := by
    intro c hc
    simp only [Char.isDigit, Bool.and_eq_true, decide_eq_true_eq] at hc
    have hnine : c.toNat ≤ 0x39 := hc.2
    omega
  have hdigits := hn.2
  obtain ⟨whole, fraction⟩ := n
  cases fraction with
  | none =>
    simp only [digits, Option.getD_none, List.append_nil] at hdigits
    simp only [text, List.append_nil]
    exact fun c hc => hdigit c (hdigits c hc)
  | some fraction =>
    simp only [digits, Option.getD_some, List.mem_append] at hdigits
    simp only [text, List.mem_append, List.mem_cons]
    rintro c (hc | rfl | hc)
    · exact hdigit c (hdigits c (.inl hc))
    · decide
    · exact hdigit c (hdigits c (.inr hc))

theorem Numeral.Valid.text_ne_nil {n : Numeral} (hn : n.Valid Char.isDigit) : n.text ≠ [] := by
  obtain ⟨whole, _ | fraction⟩ := n
  · simpa [text, digits] using hn.1
  · simp [text]

/-! ## Shown numbers as constants -/

namespace Display

/-- The magnitude of a finite number. -/
def magnitude : Binary64 → Magnitude
  | .finite _ m => m
  | _ => .zero

/-- The numeral a finite number is shown with. -/
def shownNumeral (places : Nat) (x : Binary64) : Numeral :=
  stepsNumeral places (steps places (magnitude x))

/-- A finite number as it is shown: with a minus if it is negative and not shown as zero. -/
def shown (places : Nat) (x : Binary64) : Constant where
  sign := if x < 0 ∧ steps places (magnitude x) ≠ 0 then some .minus else none
  numeral := shownNumeral places x

/-- A finite number as it is shown behind a term: always with a sign. -/
def joined (places : Nat) (x : Binary64) : Constant where
  sign := some (if x < 0 then .minus else .plus)
  numeral := shownNumeral places x

theorem finite_lt_zero_iff {s : Bool} {m : Magnitude} :
    Binary64.finite s m < 0 ↔ s = true ∧ m.units ≠ 0 := by
  have hlt : Binary64.finite s m < 0 ↔ Binary64.signed s m.units < 0 := by
    rw [Binary64.zero_eq]
    change Binary64.less _ _ = true ↔ _
    simp [Binary64.less, Binary64.isNaN, Binary64.signedZero, Binary64.place, Binary64.signed,
      Magnitude.units, Magnitude.zero]
  rw [hlt]
  cases s <;> simp [Binary64.signed]
  omega

variable (places : Nat) {x : Binary64}

theorem shownNumeral_valid (x : Binary64) : (shownNumeral places x).Valid Char.isDigit :=
  stepsNumeral_valid places _

theorem shown_valid (x : Binary64) : (shown places x).Valid Char.isDigit := shownNumeral_valid places x

theorem shown_sign (x : Binary64) :
    (shown places x).sign = none ∨ (shown places x).sign = some .minus := by
  unfold shown
  split
  · exact .inr rfl
  · exact .inl rfl

theorem joined_valid (x : Binary64) : (joined places x).Valid Char.isDigit := shownNumeral_valid places x

/-- **A finite number is shown as a constant of the grammar.** -/
theorem toList_number (hx : x.isFinite = true) : (number places x).toList = (shown places x).text := by
  cases x with
  | finite s m =>
    have hsign : (s && steps places m != 0) = true ↔
        Binary64.finite s m < 0 ∧ steps places m ≠ 0 := by
      rw [finite_lt_zero_iff, Bool.and_eq_true, bne_iff_ne]
      constructor
      · intro ⟨hs, hn⟩
        exact ⟨⟨hs, fun hu => hn (steps_eq_zero places hu)⟩, hn⟩
      · rintro ⟨⟨hs, -⟩, hn⟩
        exact ⟨hs, hn⟩
    have htext : (number places (.finite s m)).toList =
        (if s && steps places m != 0 then ['-'] else []) ++
          (shownNumeral places (.finite s m)).text := by
      simp [number, shownNumeral, stepsNumeral_text, magnitude]
    rw [htext]
    by_cases h : Binary64.finite s m < 0 ∧ steps places m ≠ 0
    · have hshown : (shown places (.finite s m)).sign = some .minus := if_pos h
      rw [if_pos (hsign.mpr h), Constant.text, hshown]
      rfl
    · have hshown : (shown places (.finite s m)).sign = none := if_neg h
      rw [if_neg (mt hsign.mp h), Constant.text, hshown]
      rfl
  | nan => cases hx
  | infinite s => cases hx

theorem exists_getLast?_number (hx : x.isFinite = true) :
    ∃ c ∈ (number places x).toList.getLast?, c.toNat < 0x3A := by
  have hvalid := shownNumeral_valid places x
  have hne : (shown places x).numeral.text ≠ [] := hvalid.text_ne_nil
  rw [toList_number places hx, Constant.text, List.getLast?_append_of_ne_nil _ hne]
  exact ⟨_, List.getLast?_eq_some_getLast hne, hvalid.toNat_lt _ (List.getLast_mem hne)⟩

theorem toList_number_abs (hx : x.isFinite = true) :
    (number places x.abs).toList = (shownNumeral places x).text := by
  cases x with
  | finite s m => simp [number, Binary64.abs, shownNumeral, stepsNumeral_text, magnitude]
  | nan => cases hx
  | infinite s => cases hx

theorem toList_constant (hx : x.isFinite = true) : (constant places x).toList =
    (joiningSign x).toList ++ ' ' :: (shownNumeral places x).text := by
  simp [constant, String.toList_append, toList_number_abs places hx]

theorem toList_joiningSign (x : Binary64) :
    (joiningSign x).toList = Sign.text (joined places x).sign := by
  unfold joiningSign joined
  split <;> rfl

end Display

/-! ## Reading a constant as a number -/

namespace Binary64

theorem splitSign_text (sign : Option Sign) {n : Numeral} (hn : n.Valid Char.isDigit) :
    splitSign (Sign.text sign ++ n.text) = (decide (sign = some .minus), n.text) := by
  rcases sign with _ | _ | _
  · have hhead := Numeral.head?_text (Numeral.valid_isDigit_iff.mp hn).1 []
    rw [List.append_nil] at hhead
    simp only [Sign.text, Option.toList_none, List.map_nil, List.nil_append]
    unfold splitSign
    split
    · next h => exact absurd (hhead '-' (by rw [h]; rfl)) (by decide)
    · next h => exact absurd (hhead '+' (by rw [h]; rfl)) (by decide)
    · simp
  · rfl
  · rfl

theorem decimalOf?_text {n : Numeral} (hn : n.Valid Char.isDigit) :
    decimalOf? n.text = some (digitsValue n.digits, -((n.fraction.getD []).length : Int)) := by
  obtain ⟨whole, fraction⟩ := n
  obtain ⟨hne, hdigits⟩ := hn
  simp only [Numeral.digits, List.mem_append] at hne hdigits
  cases fraction with
  | none =>
    simp only [Option.getD_none, List.append_nil] at hne
    obtain ⟨htake, hdrop⟩ := takeWhile_dropWhile_append whole []
      (fun c hc => hdigits c (.inl hc)) (by simp)
    rw [List.append_nil] at htake hdrop
    simp [decimalOf?, Numeral.text, Numeral.digits, htake, hdrop, hne, exponentOf?]
  | some fraction =>
    simp only [Option.getD_some] at hne hdigits
    obtain ⟨htake, hdrop⟩ := takeWhile_dropWhile_append whole ('.' :: fraction)
      (fun c hc => hdigits c (.inl hc)) (by rintro c ⟨⟩; decide)
    obtain ⟨htake', hdrop'⟩ := takeWhile_dropWhile_append fraction []
      (fun c hc => hdigits c (.inr hc)) (by simp)
    rw [List.append_nil] at htake' hdrop'
    have hsome : (whole.isEmpty && fraction.isEmpty) = false := by
      rw [Bool.eq_false_iff]
      simpa using hne
    simp [decimalOf?, Numeral.text, Numeral.digits, htake, hdrop, htake', hdrop', hsome, exponentOf?]

/-- A numeral is no word. -/
theorem not_mem_map_toLower_text {n : Numeral} (hn : n.Valid Char.isDigit) :
    'n' ∉ n.text.map Char.toLower := by
  have hlower : ∀ k < 0x3A, (Char.ofNat k).toLower ≠ 'n' := by decide
  rw [List.mem_map]
  rintro ⟨c, hc, hn'⟩
  refine hlower c.toNat (hn.toNat_lt c hc) ?_
  rwa [Char.ofNat_toNat]

/-- **Reading a constant** gives the number it stands for. -/
theorem ofText?_text {c : Constant} (hc : c.Valid Char.isDigit) :
    ofText? c.text = some (ofDecimal (c.sign = some .minus) (digitsValue c.numeral.digits)
      (-((c.numeral.fraction.getD []).length : Int))) := by
  have hword := not_mem_map_toLower_text hc
  have hinf : ¬ (c.numeral.text.map Char.toLower = ['i', 'n', 'f'] ∨
      c.numeral.text.map Char.toLower = ['i', 'n', 'f', 'i', 'n', 'i', 't', 'y']) := by
    rintro (h | h) <;> rw [h] at hword <;> revert hword <;> decide
  have hnan : c.numeral.text.map Char.toLower ≠ ['n', 'a', 'n'] := by
    intro h
    rw [h] at hword
    revert hword
    decide
  simp only [ofText?, Constant.text, splitSign_text c.sign hc, decimalOf?_text hc, Option.map_some,
    hinf, hnan, if_false]

/-! ## Numbers read back -/

theorem Stands.of_ofDecimal (sign : Option Sign) {n : Numeral} (h : n.value < Magnitude.overflow) :
    (ofDecimal (sign = some .minus) (digitsValue n.digits)
      (-((n.fraction.getD []).length : Int))).Stands sign n.value :=
  (digitsValue_isRounding _ n).stands h

/-- Numbers that stand for the same magnitude are equal as numbers: their signs agree, or the
magnitude is zero and its sign does not matter. -/
theorem Stands.equals {s t : Option Sign} {q : ℚ} {x y : Binary64} (hx : x.Stands s q)
    (hy : y.Stands t q) (h : (s = some .minus ↔ t = some .minus) ∨ q = 0) : x.equals y = true := by
  obtain ⟨hfinite, hx⟩ := hx
  obtain ⟨hfinite', hy⟩ := hy
  cases hx with
  | infinite _ => cases hfinite
  | @finite m hm =>
    cases hy with
    | infinite _ => cases hfinite'
    | @finite n hn =>
      have hmn := hm.unique hn
      subst hmn
      rcases h with h | rfl
      · simp [Binary64.equals, isNaN, place, h]
      · have hzero : Magnitude.zero.IsNearest 0 := by
          rw [← Magnitude.value_zero]
          exact Magnitude.zero.isNearest_value
        obtain rfl : m = .zero := hm.unique hzero
        simp [Binary64.equals, isNaN, place, signed, Magnitude.units, Magnitude.zero]

end Binary64

namespace Display

/-- `y` is equal as a number to what is read from the text that shows `x`. -/
def ReadsAs (places : Nat) (x y : Binary64) : Prop :=
  ∃ z, Binary64.ofText? (number places x).toList = some z ∧ y.equals z = true

theorem shownNumeral_value (places : Nat) (x : Binary64) :
    (shownNumeral places x).value = steps places (magnitude x) / 10 ^ places :=
  stepsNumeral_value places _

theorem shownNumeral_value_lt (places : Nat) (x : Binary64) :
    (shownNumeral places x).value < Magnitude.overflow := by
  rw [shownNumeral_value]
  exact steps_div_lt_overflow places _

variable (places : Nat) {x : Binary64}

/-- **A shown number reads back** as the number it stands for. -/
theorem exists_ofText?_number (hx : x.isFinite = true) :
    ∃ z, Binary64.ofText? (number places x).toList = some z ∧ (shown places x).Denotes z := by
  refine ⟨_, ?_, Binary64.Stands.of_ofDecimal _ (shownNumeral_value_lt places x)⟩
  rw [toList_number places hx, Binary64.ofText?_text (shown_valid places x)]

theorem shown_denotes (hx : x.isFinite = true) :
    ∃ y, (shown places x).Denotes y ∧ ReadsAs places x y := by
  obtain ⟨z, hread, hz⟩ := exists_ofText?_number places hx
  exact ⟨z, hz, z, hread, hz.equals hz (.inl Iff.rfl)⟩

/-- Behind a term a number is read with its own sign, if it is not zero. -/
theorem joined_denotes (hx : x.isFinite = true) :
    ∃ y, (joined places x).Denotes y ∧ ReadsAs places x y := by
  obtain ⟨z, hread, hz⟩ := exists_ofText?_number places hx
  have hy := Binary64.Stands.of_ofDecimal (joined places x).sign (shownNumeral_value_lt places x)
  refine ⟨_, hy, z, hread, hy.equals hz ?_⟩
  by_cases hsteps : steps places (magnitude x) = 0
  · right
    rw [shownNumeral_value, hsteps, Nat.cast_zero, zero_div]
  · left
    by_cases hneg : x < 0 <;> simp [joined, shown, hneg, hsteps]

theorem isFinite_of_isZero (h : x.isZero = true) : x.isFinite = true := by
  cases x with
  | finite s m => rfl
  | nan => cases h
  | infinite s => cases s <;> cases h

/-- A zero that is left out is read as the zero it is shown as. -/
theorem readsAs_of_isZero (hx : x.isZero = true) {y : Binary64} (hy : y.Stands none 0) :
    ReadsAs places x y := by
  have hfinite := isFinite_of_isZero hx
  obtain ⟨z, hread, hz⟩ := exists_ofText?_number places hfinite
  have hunits : (magnitude x).units = 0 := by
    cases x with
    | finite s m =>
      cases s <;> simpa [Binary64.isZero, Binary64.equals, Binary64.isNaN, Binary64.place,
        Binary64.signedZero, Binary64.signed, Magnitude.zero, Magnitude.units, magnitude] using hx
    | nan => cases hfinite
    | infinite s => cases hfinite
  have hvalue : (shownNumeral places x).value = 0 := by
    rw [shownNumeral_value, steps_eq_zero places hunits, Nat.cast_zero, zero_div]
  have hz : z.Stands (shown places x).sign 0 := by
    rw [← hvalue]
    exact hz
  exact ⟨z, hread, hy.equals hz (.inr rfl)⟩

end Display
end WorkedEquations
