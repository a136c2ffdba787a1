/-
When the leading coefficient counts as zero.

Three outcomes say that it does. They depend on the number that was read, and a
numeral with a digit other than zero may be read as zero: one that is at most
half the least positive number.

Which magnitudes are rounded to zero is in `Binary64.Stands.isZero_iff`, and
what the digits say of a magnitude in `Numeral.value_eq_zero_iff` and
`Numeral.le_value`. `leading_zero_iff` gives the outcomes by the numeral that is
written, for every text that is taken. With up to 323 digits behind the point
only a zero counts as one.
-/
import WorkedEquations.Proofs.Equation.Characters
import WorkedEquations.Proofs.Solution.Decisive

namespace WorkedEquations

/-! ## Numbers that are read as zero -/

/-- Up to half the least positive number a zero is the nearest. -/
theorem Binary64.signedZero_stands (sign : Option Sign) {q : ℚ} (h0 : 0 ≤ q) (hq : q ≤ 1 / 2 ^ 1075) :
    (signedZero (sign = some .minus)).Stands sign q := by
  have hhalf : q * 2 * Magnitude.one ≤ 1 := by
    rw [Magnitude.cast_one, mul_assoc, ← pow_succ', ← le_div_iff₀ (by positivity)]
    exact hq
  exact ⟨rfl, signedZero_isRounding _ h0 hhalf⟩

/-- **A magnitude is rounded to zero** up to half the least positive number. -/
theorem Binary64.Stands.isZero_iff {x : Binary64} {sign : Option Sign} {q : ℚ} (h : x.Stands sign q)
    (h0 : 0 ≤ q) : x.isZero = true ↔ q ≤ 1 / 2 ^ 1075 := by
  rw [Binary64.isZero_iff]
  constructor
  · rintro ⟨s, rfl⟩
    have hnear : Magnitude.zero.IsNearest q := by
      obtain ⟨-, hround⟩ := h
      cases hround with
      | finite hm => exact hm
    have herror := hnear.abs_sub_le h0
    rw [Magnitude.value_zero, abs_sub_comm, sub_zero, abs_of_nonneg h0] at herror
    -- A relative error is less than the whole, so the error is the absolute one.
    rcases le_max_iff.mp herror with hrelative | habsolute
    · have hzero : q ≤ 0 := by linarith
      exact hzero.trans (by positivity)
    · exact habsolute
  · intro hq
    exact ⟨_, h.unique (signedZero_stands sign h0 hq)⟩

/-! ## Digits -/

theorem ofDigitChars_eq_zero_iff {ds : List Char} (h : ∀ d ∈ ds, d.isDigit = true) :
    Nat.ofDigitChars 10 ds 0 = 0 ↔ ∀ d ∈ ds, d = '0' := by
  induction ds with
  | nil => simp
  | cons d ds ih =>
    obtain ⟨hd, hds⟩ := List.forall_mem_cons.mp h
    have hzero : d.toNat - '0'.toNat = 0 ↔ d = '0' := by
      simp only [Char.isDigit, Bool.and_eq_true, decide_eq_true_eq] at hd
      have hleast : '0'.toNat ≤ d.toNat := hd.1
      rw [← Char.toNat_inj]
      omega
    rw [Nat.ofDigitChars_cons, Nat.ofDigitChars_eq_ofDigitChars_zero, List.forall_mem_cons, ← ih hds,
      Nat.mul_zero, Nat.zero_add, Nat.add_eq_zero_iff, ← hzero, Nat.mul_eq_zero]
    exact and_congr_left' (or_iff_right (by positivity))

namespace Numeral
variable {n : Numeral}

theorem value_eq_zero_iff (hn : n.Valid Char.isDigit) : n.value = 0 ↔ ∀ d ∈ n.digits, d = '0' := by
  rw [← ofDigitChars_eq_zero_iff hn.2, value, div_eq_zero_iff, Nat.cast_eq_zero]
  exact or_iff_left (by positivity)

theorem le_value (h : n.value ≠ 0) : 1 / 10 ^ (n.fraction.getD []).length ≤ n.value := by
  have hdigits : Nat.ofDigitChars 10 n.digits 0 ≠ 0 := by
    intro h0
    rw [value, h0, Nat.cast_zero, zero_div] at h
    exact h rfl
  have hone : (1 : ℚ) ≤ Nat.ofDigitChars 10 n.digits 0 := by exact_mod_cast Nat.pos_of_ne_zero hdigits
  exact div_le_div_of_nonneg_right hone (by positivity)

theorem not_value_le (hplaces : (n.fraction.getD []).length ≤ 323) (h : n.value ≠ 0) :
    ¬ n.value ≤ 1 / 2 ^ 1075 := by
  have hpow : (10 : ℚ) ^ (n.fraction.getD []).length ≤ 10 ^ 323 :=
    pow_le_pow_right₀ (by norm_num) hplaces
  have hlast : (10 : ℚ) ^ 323 < 2 ^ 1075 := by
    have : (10 : ℕ) ^ 323 < 2 ^ 1075 := by decide +kernel
    exact_mod_cast this
  have hleast : (1 : ℚ) / 2 ^ 1075 < 1 / 10 ^ (n.fraction.getD []).length :=
    one_div_lt_one_div_of_lt (by positivity) (hpow.trans_lt hlast)
  exact not_le_of_gt (hleast.trans_le (le_value h))

end Numeral

/-! ## What stands before the unknown -/

/-- The multiplier before the unknown, or before its square, in a text of the family. -/
def LeadsWith (text : String) (m : Multiplier) : Family → Prop
  | .linear => ∃ f : LinearForm, text.toList = f.text ∧ f.Valid Char.isDigit ∧ f.lead.multiplier = m
  | .quadratic =>
    ∃ f : QuadraticForm, text.toList = f.text ∧ f.Valid Char.isDigit ∧ f.lead.multiplier = m
  | .system => False

theorem LinearForm.eq_of_text {f g : LinearForm} (hf : f.Valid Char.isDigit) (hg : g.Valid Char.isDigit)
    (h : f.text = g.text) : f = g := by
  have hread := ofText?_eq_some_iff.mpr ⟨(valid_isDigit_iff.mp hf).1, rfl⟩
  have hread' := ofText?_eq_some_iff.mpr ⟨(valid_isDigit_iff.mp hg).1, h⟩
  exact Option.some_inj.mp (hread.symm.trans hread')

theorem QuadraticForm.eq_of_text {f g : QuadraticForm} (hf : f.Valid Char.isDigit)
    (hg : g.Valid Char.isDigit) (h : f.text = g.text) : f = g := by
  have hread := ofText?_eq_some_iff.mpr ⟨(valid_isDigit_iff.mp hf).1, rfl⟩
  have hread' := ofText?_eq_some_iff.mpr ⟨(valid_isDigit_iff.mp hg).1, h⟩
  exact Option.some_inj.mp (hread.symm.trans hread')

theorem leadsWith_linear_iff {text : String} {f : LinearForm} (hf : f.Valid Char.isDigit)
    (htext : text.toList = f.text) (m : Multiplier) : LeadsWith text m .linear ↔ m = f.lead.multiplier := by
  constructor
  · rintro ⟨g, htext', hg, rfl⟩
    rw [LinearForm.eq_of_text hg hf (htext'.symm.trans htext)]
  · rintro rfl
    exact ⟨f, htext, hf, rfl⟩

theorem leadsWith_quadratic_iff {text : String} {f : QuadraticForm} (hf : f.Valid Char.isDigit)
    (htext : text.toList = f.text) (m : Multiplier) :
    LeadsWith text m .quadratic ↔ m = f.lead.multiplier := by
  constructor
  · rintro ⟨g, htext', hg, rfl⟩
    rw [QuadraticForm.eq_of_text hg hf (htext'.symm.trans htext)]
  · rintro rfl
    exact ⟨f, htext, hf, rfl⟩

/-- The number before the unknown is read as zero: its numeral is at most half the least positive
number. A one that is left out is not. -/
def Multiplier.ReadAsZero (m : Multiplier) : Prop := ∃ n ∈ m.numeral, n.value ≤ 1 / 2 ^ 1075

theorem Multiplier.Denotes.isZero_iff {m : Multiplier} {x : Binary64} (h : m.Denotes x) :
    x.isZero = true ↔ m.ReadAsZero := by
  obtain ⟨sign, numeral⟩ := m
  cases numeral with
  | some n => simpa [ReadAsZero] using Binary64.Stands.isZero_iff h n.value_nonneg
  | none =>
    have hone : ¬ (1 : ℚ) ≤ 1 / 2 ^ 1075 := by
      rw [not_le, div_lt_one (by positivity)]
      exact one_lt_pow₀ one_lt_two (by decide)
    rw [Binary64.Stands.isZero_iff h zero_le_one]
    exact iff_of_false hone nofun

/-! ## The outcomes -/

/-- The outcome says that the leading coefficient is zero. -/
def Solution.LeadingZero (s : Solution) : Prop :=
  s = .degenerate .infinitelyManySolutions ∨ s = .degenerate .noSolution ∨
    s = .degenerate .notQuadratic

namespace Derivation
variable (a b c : Binary64) (v : Char)

theorem not_leadingZero_finishing (xs : List Binary64) (what : Quantity) (steps : List Step) :
    ¬ (finishing xs what steps).solution.LeadingZero := by
  unfold finishing
  split <;> simp [Solution.LeadingZero]

theorem linear_leadingZero_iff : (linear a b c v).solution.LeadingZero ↔ a.isZero = true := by
  unfold linear
  simp only []
  split_ifs with h0 hbc hrest
  · simp [Solution.LeadingZero, h0]
  · simp [Solution.LeadingZero, h0]
  · exact iff_of_false (not_leadingZero_finishing _ _ _) h0
  · simp [Solution.LeadingZero, h0]

theorem quadratic_leadingZero_iff : (quadratic a b c v).solution.LeadingZero ↔ a.isZero = true := by
  unfold quadratic
  simp only []
  split_ifs with h0 hdelta hneg hzero
  · simp [Solution.LeadingZero, h0]
  · simp [Solution.LeadingZero, h0]
  · simp [Solution.LeadingZero, h0]
  · exact iff_of_false (not_leadingZero_finishing _ _ _) h0
  · exact iff_of_false (not_leadingZero_finishing _ _ _) h0

end Derivation

/-! ## Texts -/

theorem WritesLinear.leading {text : String} {e : Equation} (h : WritesLinear text e) :
    ∃ m : Multiplier, m.Valid Char.isDigit ∧ (∀ m', LeadsWith text m' .linear ↔ m' = m) ∧
      (e.derive.solution.LeadingZero ↔ m.ReadAsZero) := by
  obtain ⟨f, a, b, c, htext, hvalid, -, ha, -, -, rfl⟩ := h
  exact ⟨f.lead.multiplier, hvalid.lead.multiplier, leadsWith_linear_iff hvalid htext,
    (Derivation.linear_leadingZero_iff a b c _).trans ha.isZero_iff⟩

theorem WritesQuadratic.leading {text : String} {e : Equation} (h : WritesQuadratic text e) :
    ∃ m : Multiplier, m.Valid Char.isDigit ∧ (∀ m', LeadsWith text m' .quadratic ↔ m' = m) ∧
      (e.derive.solution.LeadingZero ↔ m.ReadAsZero) := by
  obtain ⟨f, a, b, c, htext, hvalid, -, -, -, ha, -, -, rfl⟩ := h
  exact ⟨f.lead.multiplier, hvalid.lead.multiplier, leadsWith_quadratic_iff hvalid htext,
    (Derivation.quadratic_leadingZero_iff a b c _).trans ha.isZero_iff⟩

/-- A text that writes an equation is its own canonical form, and is worked as that equation. -/
theorem WritesLinear.solve_eq {text : String} {e : Equation} (h : WritesLinear text e) :
    solve text none .linear = .ok (Worked.ofEquation .default .linear text e) := by
  have hnormal : normalize text = text := normalize_eq_self h.plain
  refine solveWith_eq_ok_iff.mpr ⟨e, ?_, ?_⟩
  · change classifyLinear (normalize text) = .ok e
    rw [hnormal]
    exact classifyLinear_eq_ok_iff.mpr h
  · change _ = Worked.ofEquation .default .linear (normalize text) e
    rw [hnormal]

/-! ## Reciprocals -/

/-- The equation `n·x = 1`. -/
def reciprocalForm (n : Numeral) : LinearForm :=
  ⟨⟨⟨none, some n⟩, false, 'x'⟩, none, ⟨none, ⟨['1'], none⟩⟩⟩

theorem reciprocalForm_text (n : Numeral) : (reciprocalForm n).text = n.text ++ ['x', '=', '1'] := by
  simp [reciprocalForm, LinearForm.text, Term.text, Multiplier.text, Constant.text, Sign.text,
    starText, Numeral.text]

theorem reciprocalForm_valid {n : Numeral} (hn : n.Valid Char.isDigit) :
    (reciprocalForm n).Valid Char.isDigit := by
  have hletter : 'a' ≤ 'x' ∧ 'x' ≤ 'z' := by decide
  have hone : (⟨['1'], none⟩ : Numeral).Valid Char.isDigit :=
    ⟨List.cons_ne_nil _ _, List.forall_mem_singleton.mpr rfl⟩
  refine ⟨⟨?_, hletter⟩, nofun, hone⟩
  rintro n' ⟨⟩
  exact hn

/-- With a numeral that is read as zero it is the equation `0·x = 1`. -/
theorem writesLinear_reciprocalForm {n : Numeral} (hn : n.Valid Char.isDigit)
    (hvalue : n.value ≤ 1 / 2 ^ 1075) :
    WritesLinear (String.ofList (reciprocalForm n).text) ⟨.linear 0 0 1, 'x'⟩ := by
  have hlead := Binary64.signedZero_stands none n.value_nonneg hvalue
  have hright : (⟨none, ⟨['1'], none⟩⟩ : Constant).read = .ok 1 := by decide +kernel
  exact ⟨reciprocalForm n, 0, 0, 1, String.toList_ofList, reciprocalForm_valid hn, nofun, hlead,
    zero_stands, (Constant.read_eq_ok_iff.mp hright).2, rfl⟩

/-- A one in the last of `k + 1` places behind the point. -/
def lastPlace (k : Nat) : Numeral := ⟨['0'], some (List.replicate k '0' ++ ['1'])⟩

theorem lastPlace_valid (k : Nat) : (lastPlace k).Valid Char.isDigit := by
  refine ⟨List.cons_ne_nil _ _, fun c hc => ?_⟩
  simp only [lastPlace, Numeral.digits, Option.getD_some, List.mem_append, List.mem_singleton,
    List.mem_replicate] at hc
  rcases hc with rfl | ⟨-, rfl⟩ | rfl <;> decide

theorem one_mem_lastPlace (k : Nat) : '1' ∈ (lastPlace k).digits :=
  List.mem_append_right _ (List.mem_append_right _ (List.mem_singleton_self _))

theorem lastPlace_value (k : Nat) : (lastPlace k).value = 1 / 10 ^ (k + 1) := by
  simp [lastPlace, Numeral.value, Numeral.digits, Nat.ofDigitChars_append, Nat.ofDigitChars_cons,
    Nat.ofDigitChars_replicate_zero]

/-! ## The leading numeral and the outcome -/

/-- **When the leading coefficient counts as zero.** The canonical text of a linear or quadratic equation
has one multiplier before its unknown, and the outcome says that it is zero exactly if its numeral is at
most half the least positive number. With up to 323 digits behind the point that is so exactly if all
of its digits are zero. -/
theorem leading_zero_iff {settings : Settings} {raw : String} {second : Option String} {family : Family}
    {w : Worked} (h : solveWith settings raw second family = .ok w) (hfamily : family ≠ .system) :
    ∃ m : Multiplier, (∀ m', LeadsWith w.equation m' family ↔ m' = m) ∧
      (w.solution.LeadingZero ↔ ∃ n ∈ m.numeral, n.value ≤ 1 / 2 ^ 1075) ∧
      ∀ n ∈ m.numeral, (n.fraction.getD []).length ≤ 323 →
        (w.solution.LeadingZero ↔ ∀ d ∈ n.digits, d = '0') := by
  obtain ⟨e, he, rfl⟩ := solveWith_eq_ok_iff.mp h
  obtain ⟨m, hvalid, hleads, hzero⟩ : ∃ m : Multiplier, m.Valid Char.isDigit ∧
      (∀ m', LeadsWith (normalize raw) m' family ↔ m' = m) ∧
        (e.derive.solution.LeadingZero ↔ m.ReadAsZero) := by
    cases family with
    | linear =>
      have hok : classifyLinear (normalize raw) = .ok e := he
      exact (classifyLinear_eq_ok_iff.mp hok).leading
    | quadratic =>
      have hok : classifyQuadratic (normalize raw) = .ok e := he
      exact (classifyQuadratic_eq_ok_iff.mp hok).leading
    | system => exact absurd rfl hfamily
  have htext : (Worked.ofEquation settings family (Worked.textOf (Worked.canonical raw second family))
      e).equation = normalize raw := by
    cases family with
    | linear | quadratic => rfl
    | system => exact absurd rfl hfamily
  rw [htext]
  refine ⟨m, hleads, hzero, fun n hn hplaces => hzero.trans ?_⟩
  rw [← Numeral.value_eq_zero_iff (hvalid n hn)]
  constructor
  · rintro ⟨n', hn', hvalue⟩
    obtain rfl : n' = n := Option.mem_unique hn' hn
    exact of_not_not fun h0 => Numeral.not_value_le hplaces h0 hvalue
  · intro h0
    exact ⟨n, hn, h0.trans_le (by positivity)⟩

/-- A thousandth before the unknown is no zero. -/
theorem leading_zero_iff_thousandth :
    ∃ w, solve "0.001x=1" none .linear = .ok w ∧ ¬ w.solution.LeadingZero := by
  obtain ⟨w, hw, htext⟩ : ∃ w, solve "0.001x=1" none .linear = .ok w ∧ w.equation = "0.001x=1" :=
    exists_ok_of_any (by decide +kernel)
  obtain ⟨m, hleads, -, hzero⟩ := leading_zero_iff hw (by decide)
  have hform : w.equation.toList = (reciprocalForm (lastPlace 2)).text := by
    rw [htext]
    rfl
  obtain rfl := (hleads _).mp ⟨_, hform, reciprocalForm_valid (lastPlace_valid 2), rfl⟩
  refine ⟨w, hw, ?_⟩
  rw [hzero (lastPlace 2) rfl (by decide)]
  exact fun h => absurd (h '1' (one_mem_lastPlace 2)) (by decide)

/-- A numeral that is too small for the format is read as zero, whatever its digits: here a one in the
331st place. The equation has a solution and is said to have none. -/
theorem leading_zero_underflow : ∃ w,
    solve (String.ofList ((lastPlace 330).text ++ ['x', '=', '1'])) none .linear = .ok w ∧
      LeadsWith w.equation ⟨none, some (lastPlace 330)⟩ .linear ∧ '1' ∈ (lastPlace 330).digits ∧
        w.solution = .degenerate .noSolution := by
  have hvalid := reciprocalForm_valid (lastPlace_valid 330)
  have hvalue : (lastPlace 330).value ≤ 1 / 2 ^ 1075 := by
    have hpow : (2 : ℚ) ^ 1075 ≤ 10 ^ 331 := by
      have : (2 : ℕ) ^ 1075 ≤ 10 ^ 331 := by decide +kernel
      exact_mod_cast this
    rw [lastPlace_value]
    exact one_div_le_one_div_of_le (by positivity) hpow
  have hsolve := (writesLinear_reciprocalForm (lastPlace_valid 330) hvalue).solve_eq
  rw [reciprocalForm_text] at hsolve
  refine ⟨_, hsolve, ⟨_, ?_, hvalid, rfl⟩, one_mem_lastPlace 330, by decide +kernel⟩
  rw [reciprocalForm_text]
  exact String.toList_ofList

end WorkedEquations
