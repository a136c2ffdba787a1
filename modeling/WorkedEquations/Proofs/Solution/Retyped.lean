/-
A shown number, typed in again, is shown as the same text.

Reading takes the shown decimal to the nearest number of the format, so it is
at least as near to the decimal as the number that was shown; and what lies at
least as near to a rounded number is rounded to it too
(`RoundsTo.of_abs_sub_le`). A tie does not get in the way: if both are half a
step away, the decimal is an even number of steps.

So the number read is shown alike (`number_of_denotes`). The text is read as a
coefficient wherever one may stand (`readsAsCoefficient_number`), and
`number_retyped` has both together, and in an equation of shown numbers.
-/
import WorkedEquations.Proofs.Display.Canonical
import WorkedEquations.Proofs.Equation.Characters
import WorkedEquations.Proofs.Solution.Restated

namespace WorkedEquations

/-! ## Numbers near a decimal -/

namespace Display

/-- **What lies at least as near** to a rounded number is rounded to it too. -/
theorem RoundsTo.of_abs_sub_le {places : Nat} {p q r : ℚ} (h : RoundsTo places q r)
    (hnear : |p - r| ≤ |q - r|) : RoundsTo places p r := by
  obtain ⟨n, rfl, hn, heven⟩ := h
  have hpow : (0 : ℚ) < 10 ^ places := by positivity
  have hsteps (t : ℚ) : |n - t * 10 ^ places| = |t - n / 10 ^ places| * 10 ^ places := by
    rw [abs_sub_comm, ← abs_of_pos hpow, ← abs_mul, abs_of_pos hpow, sub_mul,
      div_mul_cancel₀ _ hpow.ne']
  have hle : |n - p * 10 ^ places| ≤ |n - q * 10 ^ places| := by
    rw [hsteps, hsteps]
    exact mul_le_mul_of_nonneg_right hnear hpow.le
  exact ⟨n, rfl, hle.trans hn, fun htie => heven (le_antisymm hn (htie ▸ hle))⟩

end Display

theorem Constant.Denotes.rounds {k : Constant} {x : Binary64} (h : k.Denotes x) : x.Rounds k.value :=
  ⟨_, _, k.numeral.value_nonneg, h.2, rfl⟩

namespace Display
variable (places : Nat) {x w : Binary64}

/-- **The number read is shown alike.** -/
theorem number_of_denotes (hx : x.isFinite = true) (hw : (shown places x).Denotes w) :
    number places w = number places x := by
  have hnear : |w.toRat - shownValue places x| ≤ |x.toRat - shownValue places x| :=
    hw.rounds.nearest hw.1 hx
  have hrounds := (roundsTo_shownValue places hx).of_abs_sub_le hnear
  rw [number_eq_number_iff places hw.1 hx]
  exact ((roundsTo_iff places hw.1).mp hrounds).symm

/-! ## Reading -/

/-- Wherever a coefficient may stand, the text is read as one, and as the number `w`: up to where
the coefficient ends it is found as a constant and in front of a variable alike. -/
def ReadsAsCoefficient (text : String) (w : Binary64) : Prop :=
  ∃ (sign : Option Sign) (n : Numeral),
    Constant.read ⟨sign, n⟩ = .ok w ∧ Multiplier.read ⟨sign, some n⟩ = .ok w ∧
    ∀ rest, EndsCoefficient rest →
      Constant.scan (text.toList ++ rest) = some (⟨sign, n⟩, rest) ∧
      Multiplier.scan (text.toList ++ rest) = (⟨sign, some n⟩, rest)

/-- **A shown number is read as a coefficient.** -/
theorem readsAsCoefficient_number (hx : x.isFinite = true) (hw : (shown places x).Denotes w) :
    ReadsAsCoefficient (number places x) w := by
  obtain ⟨hvalid, hascii⟩ := Constant.valid_isDigit_iff.mp (shown_valid places x)
  have hread : (shown places x).read = .ok w := Constant.read_eq_ok_iff.mpr ⟨hascii, hw⟩
  have hmultiplier : (⟨(shown places x).sign, some (shown places x).numeral⟩ : Multiplier).Valid
      Text.isDecimalDigit := by
    rintro n ⟨⟩
    exact hvalid
  refine ⟨_, _, hread, hread, fun rest hrest => ?_⟩
  rw [toList_number places hx]
  exact ⟨Constant.scan_text hvalid hrest, Multiplier.scan_text hmultiplier hrest⟩

/-! ## An equation of shown numbers -/

/-- A linear equation of two shown numbers, without a constant on the left. -/
def retypedText (x y : Binary64) (v : Char) : String :=
  number places x ++ String.singleton v ++ "=" ++ number places y

theorem writesLinear_retypedText {y z : Binary64} {v : Char} (hx : x.isFinite = true)
    (hy : y.isFinite = true) (hw : (shown places x).Denotes w) (hz : (shown places y).Denotes z)
    (hv : 'a' ≤ v ∧ v ≤ 'z') : WritesLinear (retypedText places x y v) ⟨.linear w 0 z, v⟩ := by
  let lead : Term := ⟨⟨(shown places x).sign, some (shown places x).numeral⟩, false, v⟩
  have hlead : lead.Valid Char.isDigit := by
    refine ⟨?_, hv⟩
    rintro n ⟨⟩
    exact shown_valid places x
  refine ⟨⟨lead, none, shown places y⟩, w, 0, z, ?_, ⟨hlead, nofun, shown_valid places y⟩, nofun, hw,
    zero_stands, hz, rfl⟩
  simp [retypedText, LinearForm.text, lead, Term.text, Multiplier.text, starText,
    String.toList_append, toList_number places hx, toList_number places hy, Constant.text]

/-- **Typed in again,** such an equation is restated with the numbers it was made of. -/
theorem exists_solveWith_retypedText (settings : Settings) {y : Binary64} {v : Char}
    (hx : x.isFinite = true) (hy : y.isFinite = true) (hv : 'a' ≤ v ∧ v ≤ 'z') :
    ∃ a, solveWith settings (retypedText settings.precision x y v) none .linear = .ok a ∧
      a.steps.head? = some ("Equation: " ++ (leadingTerm settings.precision x (String.singleton v) ++
        " = " ++ number settings.precision y)) := by
  obtain ⟨w, hw, -⟩ := shown_denotes settings.precision hx
  obtain ⟨z, hz, -⟩ := shown_denotes settings.precision hy
  have hwrites := writesLinear_retypedText settings.precision hx hy hw hz hv
  have hclassified : Worked.classified
      (Worked.canonical (retypedText settings.precision x y v) none .linear) .linear =
        .ok ⟨.linear w 0 z, v⟩ := by
    simp only [Worked.canonical, normalize_eq_self hwrites.plain]
    exact classifyLinear_eq_ok_iff.mpr hwrites
  refine ⟨_, solveWith_eq_ok_iff.mpr ⟨_, hclassified, rfl⟩, ?_⟩
  obtain ⟨rest, hlines⟩ := Derivation.linear_lines settings.precision w 0 z v
  have hzero : (0 : Binary64).isZero = true := by decide +kernel
  have htext : Step.linearText settings.precision w 0 z v =
      leadingTerm settings.precision x (String.singleton v) ++ " = " ++ number settings.precision y := by
    simp only [Step.linearText, hzero, if_true, leadingTerm, number_of_denotes _ hx hw,
      number_of_denotes _ hy hz]
  change ((Derivation.linear w 0 z v).lines settings.precision).head? = _
  rw [hlines, List.head?_cons, htext]

/-- **Shown numbers are stable.** A shown number is read as a coefficient, and the number read is
finite and shown as the same text. So an equation of two shown numbers, typed in with the places
they were shown with, is restated with the same texts. -/
theorem number_retyped :
    (∀ (places : Nat) (x : Binary64), x.isFinite = true → ∃ w,
      ReadsAsCoefficient (number places x) w ∧ w.isFinite = true ∧
      number places w = number places x) ∧
    ∀ (settings : Settings) (x y : Binary64) (v : Char), x.isFinite = true → y.isFinite = true →
      'a' ≤ v → v ≤ 'z' →
      ∃ a, solveWith settings (retypedText settings.precision x y v) none .linear = .ok a ∧
        a.steps.head? = some ("Equation: " ++ (leadingTerm settings.precision x (String.singleton v) ++
          " = " ++ number settings.precision y)) := by
  constructor
  · intro places x hx
    obtain ⟨w, hw, -⟩ := shown_denotes places hx
    exact ⟨w, readsAsCoefficient_number places hx hw, hw.1, number_of_denotes places hx hw⟩
  · intro settings x y v hx hy hlow hhigh
    exact exists_solveWith_retypedText settings hx hy ⟨hlow, hhigh⟩

/-- One eighth lies half a step from `0.12`, and the number read there is another one; still it is
shown as `0.12`. -/
theorem number_retyped_eighth :
    let x := Binary64.ofDecimal false 125 (-3)
    x.isFinite = true ∧ number 2 x = "0.12" ∧
      (∃ w, ReadsAsCoefficient "0.12" w ∧ w.isFinite = true ∧ number 2 w = "0.12") ∧
      ∃ a, solveWith { Settings.default with precision := 2 } "0.12e=0.12" none .linear = .ok a ∧
        a.steps.head? = some "Equation: 0.12e = 0.12" := by
  intro x
  have hx : x.isFinite = true := by decide +kernel
  have htext : number 2 x = "0.12" := by decide +kernel
  have hread := number_retyped.1 2 x hx
  have hsolve := number_retyped.2 { Settings.default with precision := 2 } x x 'e' hx hx
    (by decide) (by decide)
  simp only [retypedText, leadingTerm, htext] at hsolve
  rw [htext] at hread
  exact ⟨hx, htext, hread, hsolve⟩

end Display
end WorkedEquations
