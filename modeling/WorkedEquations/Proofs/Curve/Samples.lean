/-
How many samples there are, and where they come from.

The samples of a parabola are one for each end of a step (`samples_eq_map`), and
there are none without a vertex or a number of steps (`samples_eq_nil_iff`). A
plot holds the samples of a parabola whose numbers stayed in range
(`Worked.samples_of_plot`). So there are never more than 10001, and under valid
settings three at least: there is always something to draw (`samples_size`).
-/
import WorkedEquations.Curve.Chart
import WorkedEquations.Proofs.Settings.Limits

namespace WorkedEquations
namespace Curve

variable {w : Window} {a b c centre : Binary64} {n : Nat}

theorem vertex?_eq_some_iff : vertex? a b = some centre ↔
    a.isZero = false ∧ centre = Derivation.quotient (-b) (2 * a) := by
  unfold vertex?
  split
  · next h => simp [h]
  · next h =>
    rw [Option.some_inj, eq_comm, and_iff_right (Bool.not_eq_true _ ▸ h)]
    exact Iff.rfl

theorem samples_eq_map (hcentre : vertex? a b = some centre) (hn : w.intervals? = some n) :
    samples w a b c =
      (List.range (n + 1)).map (sampleAt a b c (centre - w.halfWidth) w.step) := by
  simp only [samples, hcentre, hn]

theorem length_samples (ha : a.isZero = false) (hn : w.intervals? = some n) :
    (samples w a b c).length = n + 1 := by
  rw [samples_eq_map (vertex?_eq_some_iff.mpr ⟨ha, rfl⟩) hn, List.length_map, List.length_range]

theorem samples_eq_nil_iff : samples w a b c = [] ↔ a.isZero = true ∨ w.intervals? = none := by
  cases ha : a.isZero with
  | true => simp [samples, vertex?, ha]
  | false =>
    cases hn : w.intervals? with
    | none => simp [samples, hn]
    | some n =>
      have hlength := length_samples (b := b) (c := c) ha hn
      rw [← List.length_eq_zero_iff, hlength]
      simp

theorem intervals?_le (h : w.intervals? = some n) : n ≤ 10000 := by
  unfold Window.intervals? at h
  split at h
  · rw [Option.filter_eq_some_iff, decide_eq_true_eq] at h
    exact h.2
  · cases h

theorem length_samples_le (w : Window) (a b c : Binary64) : (samples w a b c).length ≤ 10001 := by
  cases ha : a.isZero with
  | true => simp [samples_eq_nil_iff.mpr (.inl ha)]
  | false =>
    cases hn : w.intervals? with
    | none => simp [samples_eq_nil_iff.mpr (.inr hn)]
    | some n =>
      rw [length_samples ha hn]
      exact Nat.succ_le_succ (intervals?_le hn)

/-- A valid window is two steps wide or wider, so it has three samples or more. -/
theorem three_le_length_samples {s : Settings} (hs : s.IsValid) (ha : a.isZero = false) :
    3 ≤ (samples s.window a b c).length := by
  obtain ⟨hproper, n, hn, hcount⟩ := hs.exists_counted
  rw [length_samples ha hn]
  exact Nat.succ_le_succ (hproper.two_le_count hcount)

theorem chartFault_eq_nothingToPlot_iff {points : List Point} {said : String} :
    chartFault points said = .nothingToPlot ↔ points = [] := by
  cases points <;> simp [chartFault]

end Curve

/-! ## Plots -/

/-- **A plot holds the samples of a parabola** whose numbers stayed in range. -/
theorem Worked.samples_of_plot {settings : Settings} {raw : String} {second : Option String}
    {family : Family} {w : Worked} {points : List Point}
    (h : solveWith settings raw second family = .ok w) (hplot : w.plot = some points) :
    ∃ a b c v, classified (canonical raw second family) family = .ok ⟨.quadratic a b c, v⟩ ∧
      a.isZero = false ∧ w.solution = (Derivation.quadratic a b c v).solution ∧
      w.solution ≠ .degenerate .outOfRange ∧ points = Curve.samples settings.window a b c := by
  obtain ⟨⟨coefficients, v⟩, he, rfl⟩ := solveWith_eq_ok_iff.mp h
  cases coefficients with
  | linear a b c => cases hplot
  | system r s => cases hplot
  | quadratic a b c =>
    simp only [ofEquation, plotOf] at hplot
    split at hplot
    · cases hplot
    · next hdrawn =>
      rw [not_or, Bool.not_eq_true] at hdrawn
      exact ⟨a, b, c, v, he, hdrawn.1, rfl, hdrawn.2, (Option.some_inj.mp hplot).symm⟩

theorem Worked.exists_plot {outcome : Except Refusal Worked} {found : List Point → Bool}
    (h : (outcome.toOption.bind (·.plot)).any found = true) :
    ∃ w points, outcome = .ok w ∧ w.plot = some points ∧ found points = true := by
  obtain ⟨points, hpoints, hfound⟩ := (Option.any_eq_true _ _).mp h
  obtain ⟨w, hw, hplot⟩ := Option.bind_eq_some_iff.mp hpoints
  cases outcome with
  | error r => cases hw
  | ok w' =>
    cases hw
    exact ⟨w, points, rfl, hplot, hfound⟩

/-- **The size of a plot.** There are never more than 10001 samples, none exactly if the curve is a
straight line or its window has no number of steps, and else one more than there are steps. Under
valid settings a parabola has three or more, so there is always something to draw. -/
theorem samples_size :
    (∀ (w : Window) (a b c : Binary64), (Curve.samples w a b c).length ≤ 10001 ∧
      (Curve.samples w a b c = [] ↔ a.isZero = true ∨ w.intervals? = none) ∧
      ∀ n, a.isZero = false → w.intervals? = some n → (Curve.samples w a b c).length = n + 1) ∧
    (∀ (s : Settings) (a b c : Binary64), s.IsValid → a.isZero = false →
      3 ≤ (Curve.samples s.window a b c).length) ∧
    ∀ (s : Settings) raw second family w points, s.IsValid →
      solveWith s raw second family = .ok w → w.plot = some points →
        3 ≤ points.length ∧ ∀ said, Curve.chartFault points said ≠ .nothingToPlot := by
  refine ⟨fun w a b c => ?_, fun s a b c hs ha => Curve.three_le_length_samples hs ha, ?_⟩
  · exact ⟨Curve.length_samples_le w a b c, Curve.samples_eq_nil_iff,
      fun n ha hn => Curve.length_samples ha hn⟩
  · intro s raw second family w points hs hw hplot
    obtain ⟨a, b, c, v, -, ha, -, -, rfl⟩ := Worked.samples_of_plot hw hplot
    have hlength := Curve.three_le_length_samples (b := b) (c := c) hs ha
    refine ⟨hlength, fun said hnothing => ?_⟩
    rw [Curve.chartFault_eq_nothingToPlot_iff.mp hnothing] at hlength
    contradiction

/-- The least number of samples: a window of two steps. -/
theorem samples_size_two_steps :
    ∃ s w points, s = { Settings.default with window := ⟨1, 1⟩ } ∧ s.IsValid ∧
      solveWith s "x^2-1=0" none .quadratic = .ok w ∧ w.plot = some points ∧
      3 ≤ points.length ∧ ∀ said, Curve.chartFault points said ≠ .nothingToPlot := by
  have hs : Settings.IsValid { Settings.default with window := ⟨1, 1⟩ } :=
    Settings.isValid_iff_invalid?.mpr (by decide +kernel)
  have hplotted : ((solveWith { Settings.default with window := ⟨1, 1⟩ } "x^2-1=0" none
      .quadratic).toOption.bind (·.plot)).any (fun _ => true) = true := by
    decide +kernel
  obtain ⟨w, points, hw, hplot, -⟩ := Worked.exists_plot hplotted
  exact ⟨_, w, points, rfl, hs, hw, hplot, samples_size.2.2 _ _ _ _ _ _ hs hw hplot⟩

end WorkedEquations
