/-
Where the samples of a window lie.

Each sample is found from its number with three roundings, none of which knows
of the others. Numbers of samples keep their order, since rounding does; what
they keep of their distance, and how near the last one comes to the end of the
window, depends on the size of the step.

A finite sample is where its number puts it, up to eight parts in `2 ^ 53` of
the window's reach (`abs_abscissa_sub_le`), and the samples are in the order of
their numbers (`abscissa_le_abscissa`). So the whole of a window is sampled, but
for what its last step leaves over (`samples_span`).
-/
import WorkedEquations.Proofs.Curve.Samples

namespace WorkedEquations

open Binary64 (roundoff)
open Magnitude (room)

namespace Curve

/-! ## One sample -/

/-- The `i`-th place at which a window around a centre is sampled. -/
def abscissa (w : Window) (centre : Binary64) (i : Nat) : Binary64 :=
  centre - w.halfWidth + .ofInt i * w.step

/-- Where that place is in exact numbers. -/
def exactAbscissa (w : Window) (centre : Binary64) (i : Nat) : ℚ :=
  centre.toRat - w.halfWidth.toRat + i * w.step.toRat

/-- How far from zero a window reaches. -/
def reach (w : Window) (centre : Binary64) : ℚ := |centre.toRat| + w.halfWidth.toRat

section
variable {w : Window} {centre : Binary64} {n i j : Nat}

theorem isFinite_of_abscissa (h : (abscissa w centre i).isFinite = true) :
    centre.isFinite = true ∧ (centre - w.halfWidth).isFinite = true ∧
      (.ofInt i * w.step : Binary64).isFinite = true := by
  obtain ⟨hstart, hsteps⟩ := Binary64.isFinite_of_add h
  exact ⟨(Binary64.isFinite_of_sub hstart).1, hstart, hsteps⟩

theorem toRat_number (hn : w.Counted n) (hi : i ≤ n) :
    (Binary64.ofInt i).isFinite = true ∧ (Binary64.ofInt i).toRat = i := by
  have hsmall : i < 2 ^ 53 := (hi.trans hn.le_maxIntervals).trans_lt (by decide)
  exact Binary64.toRat_ofNat hsmall

theorem halfWidth_le_reach (w : Window) (centre : Binary64) :
    w.halfWidth.toRat ≤ reach w centre := le_add_of_nonneg_left (abs_nonneg _)

variable (hw : w.Proper) (hn : w.Counted n)
include hw hn

theorem mul_step_le (hi : i ≤ n) : i * w.step.toRat ≤ 51 / 20 * w.halfWidth.toRat := by
  have hwidth := (le_abs_self _).trans (hw.abs_mul_step_sub_le hn)
  have hsteps : i * w.step.toRat ≤ n * w.step.toRat :=
    mul_le_mul_of_nonneg_right (by exact_mod_cast hi) hw.step_pos.le
  linarith [hw.step_le, hw.step_pos]

theorem abscissa_parts (hi : i ≤ n) (hstart : (centre - w.halfWidth).isFinite = true)
    (hsteps : (.ofInt i * w.step : Binary64).isFinite = true) :
    |(centre - w.halfWidth).toRat - (centre.toRat - w.halfWidth.toRat)| ≤
        reach w centre * roundoff ∧
      |(.ofInt i * w.step : Binary64).toRat - i * w.step.toRat| ≤
        51 / 20 * w.halfWidth.toRat * roundoff := by
  have hroundoff : 0 ≤ roundoff := by norm_num [roundoff]
  obtain ⟨hcentre, hwidth⟩ := Binary64.isFinite_of_sub hstart
  constructor
  · refine (Binary64.toRat_sub_sub_le hcentre hwidth hstart).trans ?_
    refine mul_le_mul_of_nonneg_right ((abs_sub _ _).trans_eq ?_) hroundoff
    rw [reach, abs_of_pos hw.halfWidth_pos]
  · refine (Binary64.toRat_mul_sub_le_of_nat (toRat_number hn hi).2 hsteps).trans ?_
    rw [abs_of_pos hw.step_pos]
    exact mul_le_mul_of_nonneg_right (mul_step_le hw hn hi) hroundoff

theorem abs_abscissa_parts_le (hi : i ≤ n) (hstart : (centre - w.halfWidth).isFinite = true)
    (hsteps : (.ofInt i * w.step : Binary64).isFinite = true) :
    |(centre - w.halfWidth).toRat| + |(.ofInt i * w.step : Binary64).toRat| ≤
      36 / 10 * reach w centre := by
  obtain ⟨hfirst, hsecond⟩ := abscissa_parts hw hn hi hstart hsteps
  have hfirst' := (abs_sub_abs_le_abs_sub _ _).trans hfirst
  have hsecond' := (abs_sub_abs_le_abs_sub _ _).trans hsecond
  have hstart0 : |centre.toRat - w.halfWidth.toRat| ≤ reach w centre := by
    refine (abs_sub _ _).trans_eq ?_
    rw [reach, abs_of_pos hw.halfWidth_pos]
  have hsteps0 : |i * w.step.toRat| ≤ 51 / 20 * w.halfWidth.toRat := by
    rw [abs_of_nonneg (mul_nonneg (Nat.cast_nonneg i) hw.step_pos.le)]
    exact mul_step_le hw hn hi
  have hreach := halfWidth_le_reach w centre
  have hpos := hw.halfWidth_pos
  rw [roundoff] at *
  linarith

/-- **A sample is where its number puts it,** up to rounding. -/
theorem abs_abscissa_sub_le (hi : i ≤ n) (h : (abscissa w centre i).isFinite = true) :
    |(abscissa w centre i).toRat - exactAbscissa w centre i| ≤ reach w centre / 2 ^ 50 := by
  obtain ⟨hcentre, hstart, hsteps⟩ := isFinite_of_abscissa h
  obtain ⟨hfirst, hsecond⟩ := abscissa_parts hw hn hi hstart hsteps
  have hsum := Binary64.toRat_add_sub_le hstart hsteps h
  have hsize := (abs_add_le _ _).trans (abs_abscissa_parts_le hw hn hi hstart hsteps)
  have hreach := halfWidth_le_reach w centre
  have hpos := hw.halfWidth_pos
  have hparts : (abscissa w centre i).toRat - exactAbscissa w centre i =
      ((abscissa w centre i).toRat -
        ((centre - w.halfWidth).toRat + (.ofInt i * w.step : Binary64).toRat)) +
      ((centre - w.halfWidth).toRat - (centre.toRat - w.halfWidth.toRat)) +
      ((.ofInt i * w.step : Binary64).toRat - i * w.step.toRat) := by
    rw [exactAbscissa]
    ring
  rw [hparts]
  refine (abs_add_three _ _ _).trans ?_
  rw [abscissa, roundoff] at *
  linarith

theorem abscissa_le_abscissa (hij : i ≤ j) (hj : j ≤ n) (hfi : (abscissa w centre i).isFinite = true)
    (hfj : (abscissa w centre j).isFinite = true) :
    (abscissa w centre i).toRat ≤ (abscissa w centre j).toRat := by
  obtain ⟨-, hstart, hsi⟩ := isFinite_of_abscissa hfi
  obtain ⟨-, -, hsj⟩ := isFinite_of_abscissa hfj
  obtain ⟨hi, hivalue⟩ := toRat_number hn (hij.trans hj)
  obtain ⟨hj, hjvalue⟩ := toRat_number hn hj
  have hnumbers : (i : ℚ) * w.step.toRat ≤ j * w.step.toRat :=
    mul_le_mul_of_nonneg_right (by exact_mod_cast hij) hw.step_pos.le
  rw [← hivalue, ← hjvalue] at hnumbers
  have hsteps := (Binary64.rounds_mul hi hw.step_finite).le
    (Binary64.rounds_mul hj hw.step_finite) hsi hsj hnumbers
  exact (Binary64.rounds_add hstart hsi).le (Binary64.rounds_add hstart hsj) hfi hfj (by linarith)

/-- **Samples in range.** Where the window reaches no farther than there is room, nothing overflows. -/
theorem isFinite_abscissa (hcentre : centre.isFinite = true) (hreach : reach w centre ≤ room)
    (hi : i ≤ n) : (abscissa w centre i).isFinite = true := by
  obtain ⟨hnumber, hvalue⟩ := toRat_number hn hi
  have hwidth := halfWidth_le_reach w centre
  have hpos := hw.halfWidth_pos
  have hstart : (centre - w.halfWidth).isFinite = true := by
    refine (Binary64.rounds_sub hcentre hw.halfWidth_finite).isFinite ?_
    refine Magnitude.lt_overflow_of_le ((abs_sub _ _).trans ?_)
    rw [abs_of_pos hpos]
    exact hreach.trans (by linarith)
  have hsteps : (.ofInt i * w.step : Binary64).isFinite = true := by
    refine (Binary64.mul_in_range hnumber hw.step_finite ?_).1
    rw [hvalue, Nat.abs_cast, abs_of_pos hw.step_pos]
    have hle := mul_step_le hw hn hi
    linarith
  refine (Binary64.add_in_range hstart hsteps ?_).1
  have hle := abs_abscissa_parts_le hw hn hi hstart hsteps
  linarith

end

/-! ## All samples -/

/-- How far `n` steps go past a window, or, if negative, fall short of it. -/
def leftover (w : Window) (n : Nat) : ℚ := n * w.step.toRat - 2 * w.halfWidth.toRat

/-- The points span an interval: their places increase, none is outside, and the last is at the end;
for the two ends there is a tolerance. -/
structure Spans (low high tolerance : ℚ) (points : List Point) : Prop where
  finite : ∀ p ∈ points, p.x.isFinite = true
  increasing : points.Pairwise fun p q => p.x < q.x
  within : ∀ p ∈ points, low - tolerance ≤ p.x.toRat ∧ p.x.toRat ≤ high + tolerance
  last : ∃ p ∈ points.getLast?, |p.x.toRat - high| ≤ tolerance

section
variable {w : Window} {a b c centre : Binary64} {n i : Nat} {p : Point}
  (hcentre : vertex? a b = some centre) (hn : w.intervals? = some n)
include hcentre hn

theorem getElem?_samples : (samples w a b c)[i]? = some p ↔
    i ≤ n ∧ p = pointAt a b c (abscissa w centre i) := by
  rw [samples_eq_map hcentre hn, List.getElem?_map, Option.map_eq_some_iff]
  constructor
  · rintro ⟨k, hk, rfl⟩
    obtain ⟨hlt, rfl⟩ := List.getElem?_eq_some_iff.mp hk
    rw [List.length_range] at hlt
    rw [List.getElem_range]
    exact ⟨Nat.lt_succ_iff.mp hlt, rfl⟩
  · rintro ⟨hi, rfl⟩
    exact ⟨i, List.getElem?_range (Nat.lt_succ_iff.mpr hi), rfl⟩

theorem mem_samples : p ∈ samples w a b c ↔
    ∃ i ≤ n, p = pointAt a b c (abscissa w centre i) := by
  rw [List.mem_iff_getElem?]
  exact exists_congr fun i => getElem?_samples hcentre hn

theorem getLast?_samples :
    (samples w a b c).getLast? = some (pointAt a b c (abscissa w centre n)) := by
  rw [samples_eq_map hcentre hn, List.range_succ, List.map_append, List.map_singleton,
    List.getLast?_concat]
  rfl

end

theorem exactAbscissa_last (w : Window) (centre : Binary64) (n : Nat) :
    exactAbscissa w centre n = centre.toRat + w.halfWidth.toRat + leftover w n := by
  rw [exactAbscissa, leftover]
  ring

section
variable {w : Window} {a b c centre : Binary64} {n i j : Nat} (hw : w.Proper)

include hw in
theorem exactAbscissa_le (centre : Binary64) (hij : i ≤ j) :
    exactAbscissa w centre i ≤ exactAbscissa w centre j :=
  add_le_add_right (mul_le_mul_of_nonneg_right (by exact_mod_cast hij) hw.step_pos.le) _

variable (hcount : w.Counted n)
include hw hcount

/-- **Samples a rounding apart are in strict order.** -/
theorem abscissa_lt_abscissa (hstep : reach w centre / 2 ^ 49 < w.step.toRat) (hij : i < j)
    (hj : j ≤ n) (hfi : (abscissa w centre i).isFinite = true)
    (hfj : (abscissa w centre j).isFinite = true) : abscissa w centre i < abscissa w centre j := by
  have hi := abs_le.mp (abs_abscissa_sub_le hw hcount (hij.le.trans hj) hfi)
  have hj := abs_le.mp (abs_abscissa_sub_le hw hcount hj hfj)
  have hapart : exactAbscissa w centre i + w.step.toRat ≤ exactAbscissa w centre j := by
    have hnext := exactAbscissa_le hw centre (Nat.succ_le_of_lt hij)
    have hsucc : exactAbscissa w centre (i + 1) = exactAbscissa w centre i + w.step.toRat := by
      rw [exactAbscissa, exactAbscissa, Nat.cast_succ]
      ring
    rwa [← hsucc]
  rw [Binary64.lt_iff_toRat hfi hfj]
  linarith

variable (hcentre : vertex? a b = some centre) (hn : w.intervals? = some n)
include hcentre hn

/-- **A window that its steps divide is spanned,** if a step outweighs the rounding. -/
theorem spans_samples (hfinite : centre.isFinite = true) (hreach : reach w centre ≤ room)
    (hstep : reach w centre / 2 ^ 49 < w.step.toRat)
    (hleft : |leftover w n| ≤ 9 / 10 ^ 10 * reach w centre) :
    Spans (centre.toRat - w.halfWidth.toRat) (centre.toRat + w.halfWidth.toRat)
      (reach w centre / 10 ^ 9) (samples w a b c) := by
  have hrange : ∀ i ≤ n, (abscissa w centre i).isFinite = true :=
    fun i hi => isFinite_abscissa hw hcount hfinite hreach hi
  have hplace : ∀ i ≤ n, |(abscissa w centre i).toRat - exactAbscissa w centre i| ≤
      reach w centre / 2 ^ 50 :=
    fun i hi => abs_abscissa_sub_le hw hcount hi (hrange i hi)
  have hpos : 0 < reach w centre := hw.halfWidth_pos.trans_le (halfWidth_le_reach w centre)
  have hlast := exactAbscissa_last w centre n
  have hover := abs_le.mp hleft
  constructor
  case finite =>
    intro p hp
    obtain ⟨i, hi, rfl⟩ := (mem_samples hcentre hn).mp hp
    exact hrange i hi
  case increasing =>
    rw [samples_eq_map hcentre hn, List.pairwise_map]
    refine List.pairwise_lt_range.imp_of_mem fun {i j} hi hj hij => ?_
    rw [List.mem_range, Nat.lt_succ_iff] at hi hj
    exact abscissa_lt_abscissa hw hcount hstep hij hj (hrange i hi) (hrange j hj)
  case within =>
    intro p hp
    obtain ⟨i, hi, rfl⟩ := (mem_samples hcentre hn).mp hp
    have hnear := abs_le.mp (hplace i hi)
    have hlow := exactAbscissa_le hw centre (Nat.zero_le i)
    have hhigh := exactAbscissa_le hw centre hi
    rw [exactAbscissa, Nat.cast_zero, zero_mul, add_zero] at hlow
    change _ ≤ (abscissa w centre i).toRat ∧ (abscissa w centre i).toRat ≤ _
    constructor <;> linarith
  case last =>
    refine ⟨_, getLast?_samples hcentre hn, ?_⟩
    have hnear := abs_le.mp (hplace n le_rfl)
    change |(abscissa w centre n).toRat - _| ≤ _
    rw [abs_le]
    constructor <;> linarith

/-- Only such a window is spanned: the last sample tells what is left over. -/
theorem abs_leftover_le_of_spans (hspans : Spans (centre.toRat - w.halfWidth.toRat)
    (centre.toRat + w.halfWidth.toRat) (reach w centre / 10 ^ 9) (samples w a b c)) :
    |leftover w n| ≤ 11 / 10 ^ 10 * reach w centre := by
  obtain ⟨p, hp, hend⟩ := hspans.last
  have hlastPoint := getLast?_samples hcentre hn (c := c)
  have hfinite := hspans.finite p (List.mem_of_getLast? hp)
  rw [Option.mem_def, hlastPoint, Option.some_inj] at hp
  subst hp
  change |(abscissa w centre n).toRat - _| ≤ _ at hend
  have hnear := abs_le.mp (abs_abscissa_sub_le hw hcount le_rfl hfinite)
  have hlast := exactAbscissa_last w centre n
  have hend := abs_le.mp hend
  have hpos : 0 < reach w centre := hw.halfWidth_pos.trans_le (halfWidth_le_reach w centre)
  rw [abs_le]
  constructor <;> linarith

end

end Curve

/-- **The samples of a window.** For every valid window and every parabola whose vertex is finite,
each sample is where its number puts it, up to rounding, and in order; what the last step leaves over
is at most half a step. The window is spanned, up to a thousand-millionth of its reach, wherever
nothing is left over and a step outweighs the rounding, and not where more is left over. -/
theorem samples_span {s : Settings} {a b c centre : Binary64} (hs : s.IsValid)
    (hcentre : Curve.vertex? a b = some centre) (hfinite : centre.isFinite = true) :
    ∃ n, s.window.intervals? = some n ∧
      (∀ i p, (Curve.samples s.window a b c)[i]? = some p →
        (Curve.reach s.window centre ≤ 2 ^ 1022 → p.x.isFinite = true) ∧
        (p.x.isFinite = true → |p.x.toRat - Curve.exactAbscissa s.window centre i| ≤
          Curve.reach s.window centre / 2 ^ 50)) ∧
      (Curve.samples s.window a b c).Pairwise
        (fun p q => p.x.isFinite = true → q.x.isFinite = true → p.x ≤ q.x) ∧
      |Curve.leftover s.window n| ≤
        s.window.step.toRat / 2 + s.window.halfWidth.toRat / 2 ^ 52 ∧
      (Curve.reach s.window centre ≤ 2 ^ 1022 →
        Curve.reach s.window centre / 2 ^ 49 < s.window.step.toRat →
        |Curve.leftover s.window n| ≤ 9 / 10 ^ 10 * Curve.reach s.window centre →
        Curve.Spans (centre.toRat - s.window.halfWidth.toRat)
          (centre.toRat + s.window.halfWidth.toRat) (Curve.reach s.window centre / 10 ^ 9)
          (Curve.samples s.window a b c)) ∧
      (Curve.Spans (centre.toRat - s.window.halfWidth.toRat)
          (centre.toRat + s.window.halfWidth.toRat) (Curve.reach s.window centre / 10 ^ 9)
          (Curve.samples s.window a b c) →
        |Curve.leftover s.window n| ≤ 11 / 10 ^ 10 * Curve.reach s.window centre) := by
  obtain ⟨hw, n, hn, hcount⟩ := hs.exists_counted
  refine ⟨n, hn, fun i p hp => ?_, ?_, hw.abs_mul_step_sub_le hcount, fun hreach hstep hleft =>
    Curve.spans_samples hw hcount hcentre hn hfinite hreach hstep hleft,
    Curve.abs_leftover_le_of_spans hw hcount hcentre hn⟩
  · obtain ⟨hi, rfl⟩ := (Curve.getElem?_samples hcentre hn).mp hp
    exact ⟨fun hreach => Curve.isFinite_abscissa hw hcount hfinite hreach hi,
      fun hx => Curve.abs_abscissa_sub_le hw hcount hi hx⟩
  · rw [Curve.samples_eq_map hcentre hn, List.pairwise_map]
    refine List.pairwise_lt_range.imp_of_mem fun {i j} _ hj hij hfi hfj => ?_
    rw [List.mem_range, Nat.lt_succ_iff] at hj
    exact (Binary64.le_iff_toRat hfi hfj).mpr
      (Curve.abscissa_le_abscissa hw hcount hij.le hj hfi hfj)

/-- Ten whole steps across the window of `x² - 4x + 3`. -/
theorem samples_span_ten_steps : ∃ s : Settings, s.window = ⟨5, 1⟩ ∧ s.IsValid ∧
    Curve.vertex? 1 (-4) = some 2 ∧ (2 : Binary64).isFinite = true ∧
    Curve.Spans (-3) 7 (7 / 10 ^ 9) (Curve.samples s.window 1 (-4) 3) := by
  obtain ⟨s, hwindow, hs⟩ : ∃ s : Settings, s.window = ⟨5, 1⟩ ∧ s.IsValid :=
    ⟨{ Settings.default with window := ⟨5, 1⟩ }, rfl,
      Settings.isValid_iff_invalid?.mpr (by decide +kernel)⟩
  have hcentre : Curve.vertex? 1 (-4) = some 2 := by decide +kernel
  have hten : Window.intervals? ⟨5, 1⟩ = some 10 := by decide +kernel
  have hfive : (5 : Binary64).toRat = 5 := Binary64.toRat_lit 5 (by decide)
  obtain ⟨n, hn, -, -, -, hspans, -⟩ := samples_span (c := 3) hs hcentre Binary64.isFinite_two
  rw [hwindow, hten, Option.some_inj] at hn
  subst hn
  have hreach : Curve.reach s.window 2 = 7 := by
    rw [hwindow, Curve.reach, Binary64.toRat_two, hfive]
    norm_num
  have hleft : Curve.leftover s.window 10 = 0 := by
    rw [hwindow, Curve.leftover, Binary64.toRat_one, hfive]
    norm_num
  have hroom : (7 : ℚ) ≤ 2 ^ 1022 := by
    have hpow : (2 : ℚ) ^ 3 ≤ 2 ^ 1022 := pow_le_pow_right₀ one_le_two (by decide)
    exact le_trans (by norm_num only) hpow
  rw [hreach, hleft, hwindow, Binary64.toRat_two, Binary64.toRat_one, hfive, abs_zero] at hspans
  have hspan := hspans hroom (by norm_num only) (by norm_num only)
  refine ⟨s, hwindow, hs, hcentre, Binary64.isFinite_two, ?_⟩
  have hlow : (2 : ℚ) - 5 = -3 := by norm_num only
  have hhigh : (2 : ℚ) + 5 = 7 := by norm_num only
  rwa [hlow, hhigh, ← hwindow] at hspan

/-- A window that its steps do not divide is left or not filled: three and a half steps across
`[-7, 7]` count as four, and the last sample is at nine. And beside a vertex that is great enough a
step is lost altogether: around ten to the seventeenth two samples are at one place. -/
theorem samples_miss_end :
    (∃ s : Settings, s.window = ⟨7, 4⟩ ∧ s.IsValid ∧ Curve.vertex? 1 0 = some 0 ∧
      ¬ Curve.Spans (-7) 7 (7 / 10 ^ 9) (Curve.samples s.window 1 0 0)) ∧
    ∃ b centre : Binary64, b = .ofDecimal true 2 17 ∧ Curve.vertex? 1 b = some centre ∧
      centre.isFinite = true ∧ Settings.default.IsValid ∧
      ¬ (Curve.samples Settings.default.window 1 b 0).Pairwise fun p q => p.x < q.x := by
  constructor
  · obtain ⟨s, hwindow, hs⟩ : ∃ s : Settings, s.window = ⟨7, 4⟩ ∧ s.IsValid :=
      ⟨{ Settings.default with window := ⟨7, 4⟩ }, rfl,
        Settings.isValid_iff_invalid?.mpr (by decide +kernel)⟩
    refine ⟨s, hwindow, hs, by decide +kernel, fun hspans => ?_⟩
    obtain ⟨p, hp, hend⟩ := hspans.last
    have hlast : (Curve.samples ⟨7, 4⟩ 1 0 0).getLast? = some ⟨9, 81⟩ := by decide +kernel
    rw [hwindow, hlast, Option.mem_def, Option.some_inj] at hp
    subst hp
    rw [Binary64.toRat_lit 9 (by decide)] at hend
    norm_num at hend
  · have hcentre : Curve.vertex? 1 (.ofDecimal true 2 17) = some (.ofDecimal false 1 17) := by
      decide +kernel
    have hfifty : Settings.default.window.intervals? = some 50 := by decide +kernel
    refine ⟨_, _, rfl, hcentre, by decide +kernel, Settings.isValid_default, fun hincreasing => ?_⟩
    rw [Curve.samples_eq_map hcentre hfifty, List.pairwise_map] at hincreasing
    have hfirst : Curve.abscissa Settings.default.window (.ofDecimal false 1 17) 0 <
        Curve.abscissa Settings.default.window (.ofDecimal false 1 17) 1 :=
      List.pairwise_iff_getElem.mp hincreasing 0 1 (by decide) (by decide) (by decide)
    exact absurd hfirst (by decide +kernel)

end WorkedEquations
