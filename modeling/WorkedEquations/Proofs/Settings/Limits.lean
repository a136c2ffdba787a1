/-
Which settings are valid, in exact numbers.

The rules on the precision, the capacity, the level and the sizes of the window
are checked as they stand. The number of intervals is checked after rounding:
what is let through is a little more than 10000 steps, and a window whose double
half width is out of range is not let through at all.

`WithinLimits` has the rules that are checked as they stand, and `isValid_iff`
tells which settings are let through.
-/
import WorkedEquations.Proofs.Curve.Intervals
import WorkedEquations.Proofs.Session.Validity
import WorkedEquations.Proofs.Settings.Recorded

namespace WorkedEquations
namespace Settings

variable {s : Settings}

/-- Every field is within its limits; nothing is said of the number of intervals. -/
structure WithinLimits (s : Settings) : Prop where
  precision_le : s.precision ≤ 12
  one_le_capacity : 1 ≤ s.historyCapacity
  window : s.window.Proper
  level : s.logLevel ∈ ["debug", "info", "warn", "error", "off", "none"]

theorem isValid_iff_invalid? : s.IsValid ↔ s.invalid? = none := by
  rw [IsValid, check_eq_ok_iff, and_iff_right rfl]

/-- The sizes are compared as numbers of the format, and a positive one below a finite one is
finite. -/
theorem proper_iff : s.window.Proper ↔
    (0 < s.window.halfWidth ∧ s.window.halfWidth.isFinite = true) ∧
      (0 < s.window.step ∧ s.window.step ≤ s.window.halfWidth) := by
  constructor
  · intro h
    rw [Binary64.pos_iff_toRat h.halfWidth_finite, Binary64.pos_iff_toRat h.step_finite,
      Binary64.le_iff_toRat h.step_finite h.halfWidth_finite]
    exact ⟨⟨h.halfWidth_pos, h.halfWidth_finite⟩, h.step_pos, h.step_le⟩
  · rintro ⟨⟨-, hwidth⟩, hpos, hle⟩
    have hstep := Binary64.isFinite_of_pos_of_le hpos hle hwidth
    exact ⟨hwidth, hstep, (Binary64.pos_iff_toRat hstep).mp hpos,
      (Binary64.le_iff_toRat hstep hwidth).mp hle⟩

/-- **Valid settings** are within the limits, and their window has a number of intervals. -/
theorem isValid_iff_intervals? :
    s.IsValid ↔ s.WithinLimits ∧ s.window.intervals?.isSome = true := by
  rw [isValid_iff_invalid?, invalid?_eq_none_iff, ← and_assoc (a := _ ∧ _), ← proper_iff,
    Option.isNone_eq_false_iff]
  constructor
  · rintro ⟨hprecision, hcapacity, hwindow, hcount, hlevel⟩
    exact ⟨⟨hprecision, hcapacity, hwindow, hlevel⟩, hcount⟩
  · rintro ⟨⟨hprecision, hcapacity, hwindow, hlevel⟩, hcount⟩
    exact ⟨hprecision, hcapacity, hwindow, hcount, hlevel⟩

theorem IsValid.exists_counted (h : s.IsValid) :
    s.window.Proper ∧ ∃ n, s.window.intervals? = some n ∧ s.window.Counted n := by
  obtain ⟨hlimits, hcount⟩ := isValid_iff_intervals?.mp h
  obtain ⟨n, hn⟩ := Option.isSome_iff_exists.mp hcount
  exact ⟨hlimits.window, n, hn, hlimits.window.intervals?_eq_some_iff.mp hn⟩

/-- **What settings are valid,** exactly: every field is within its limits, the double half width is
in range, and the width is less than 10000.5 steps, short of that by half a step of the format. -/
theorem isValid_iff (s : Settings) : s.IsValid ↔
    s.WithinLimits ∧ s.window.halfWidth.toRat < 2 ^ 1023 ∧
      s.window.exactQuotient < 10000 + 1 / 2 - 1 / 2 ^ 40 := by
  rw [isValid_iff_intervals?]
  exact and_congr_right fun h => h.window.isSome_intervals?_iff

theorem proper_of_equal {x : Binary64} (hx : x.isFinite = true) (h0 : 0 < x.toRat) :
    Window.Proper ⟨x, x⟩ ∧ Window.exactQuotient ⟨x, x⟩ = 2 := by
  refine ⟨⟨hx, hx, h0, le_rfl⟩, ?_⟩
  rw [Window.exactQuotient, mul_div_assoc, div_self h0.ne', mul_one]

theorem WithinLimits.setWindow (h : s.WithinLimits) {w : Window} (hw : w.Proper) :
    WithinLimits { s with window := w } :=
  ⟨h.precision_le, h.one_le_capacity, hw, h.level⟩

theorem isValid_default : default.IsValid := isValid_iff_invalid?.mpr (by decide +kernel)

/-- The limit of 10000 steps is not kept exactly: a window of about 10000.4 steps is let through, and
one of two steps is not, whose double half width is out of range. -/
theorem stepLimit_not_exact :
    (∃ s : Settings, s = { default with window := ⟨.ofDecimal false 50002 (-1), 1⟩ } ∧
      s.IsValid ∧ ¬ s.window.exactQuotient ≤ 10000) ∧
    ∃ s : Settings, s = { default with window := ⟨.ofDecimal false 1 308, .ofDecimal false 1 308⟩ } ∧
      ¬ s.IsValid ∧ s.WithinLimits ∧ s.window.exactQuotient ≤ 10000 := by
  constructor
  · refine ⟨_, rfl, isValid_iff_invalid?.mpr (by decide +kernel), ?_⟩
    have hfinite : (Binary64.ofDecimal false 50002 (-1)).isFinite = true := by decide +kernel
    have hlt : (5000 : Binary64) < .ofDecimal false 50002 (-1) := by decide +kernel
    rw [Binary64.lt_iff_toRat (Binary64.toRat_ofNat (by decide)).1 hfinite,
      Binary64.toRat_lit 5000 (by decide)] at hlt
    rw [Window.exactQuotient, Binary64.toRat_one, div_one]
    linarith
  · have hfinite : (Binary64.ofDecimal false 1 308).isFinite = true := by decide +kernel
    have hpos : 0 < (Binary64.ofDecimal false 1 308).toRat :=
      (Binary64.pos_iff_toRat hfinite).mp (by decide +kernel)
    obtain ⟨hproper, hquotient⟩ := proper_of_equal hfinite hpos
    obtain ⟨hlimits, -⟩ := isValid_iff_intervals?.mp isValid_default
    refine ⟨_, rfl, ?_, hlimits.setWindow hproper, hquotient.trans_le (by norm_num)⟩
    rw [isValid_iff_invalid?]
    decide +kernel

end Settings
end WorkedEquations
