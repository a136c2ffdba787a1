/-
What lower-casing gives is in lower case: no character of it has a lower case
other than itself.

A run of the table is taken as a whole. Its lower cases are again a run, so
the table is settled by comparing runs, not letters.

A lower case is no letter of any run (`CaseRun.not_contains_lower`). With what
the lower case of a character is made of (`mem_lowerChar`), each of it is its
own lower case (`lowerChar_of_mem`).
-/
import WorkedEquations.Text.LowerCase
import Mathlib.Tactic.Common

namespace WorkedEquations
namespace Text

namespace CaseRun
variable {r r' : CaseRun} {n : Nat}

/-- The code point of the lower case of a letter of the run. -/
def lower (r : CaseRun) (n : Nat) : Nat := ((n : Int) + r.shift).toNat

/-- The run has letters at or above `low` and at or below `high`. -/
def reaches (r : CaseRun) (low high : Nat) : Bool := Nat.ble r.first high && Nat.ble low r.last

/-- The letters of `r'` are every other code point, and the lower cases of `r` fall in between. -/
def OutOfStep (r r' : CaseRun) : Prop :=
  (r.first = r.last ∨ r.stride = 2) ∧ r'.stride = 2 ∧ (r.lower r.first + r'.first) % 2 = 1

instance (r r' : CaseRun) : Decidable (r.OutOfStep r') := inferInstanceAs (Decidable (_ ∧ _))

/-- The lower cases of the run are characters. -/
structure Sound (r : CaseRun) : Prop where
  start : 0 ≤ (r.first : Int) + r.shift
  isValidChar : r.lower r.last < 0xD800 ∨ 0xDFFF < r.lower r.first ∧ r.lower r.last < 0x110000

instance (r : CaseRun) : Decidable r.Sound :=
  decidable_of_iff (0 ≤ (r.first : Int) + r.shift ∧
    (r.lower r.last < 0xD800 ∨ 0xDFFF < r.lower r.first ∧ r.lower r.last < 0x110000))
    ⟨fun h => ⟨h.1, h.2⟩, fun h => ⟨h.1, h.2⟩⟩

theorem sound_of_mem : ∀ r ∈ caseRuns, r.Sound := by decide +kernel

/-- Where the lower cases of a run and the letters of a run overlap, they are out of step. -/
theorem outOfStep_of_mem : ∀ r ∈ caseRuns,
    ∀ r' ∈ caseRuns.filter (·.reaches (r.lower r.first) (r.lower r.last)), r.OutOfStep r' := by
  decide +kernel

theorem contains_iff : r.contains n = true ↔
    r.first ≤ n ∧ n ≤ r.last ∧ (n - r.first) % r.stride = 0 := by
  simp only [contains, Bool.and_eq_true, decide_eq_true_eq, beq_iff_eq, and_assoc]

theorem lower_le (h : r.contains n = true) :
    r.lower r.first ≤ r.lower n ∧ r.lower n ≤ r.lower r.last := by
  obtain ⟨hfirst, hlast, -⟩ := contains_iff.mp h
  simp only [lower]
  omega

/-- **A lower case is no letter** of the table. -/
theorem not_contains_lower (hr : r ∈ caseRuns) (hr' : r' ∈ caseRuns) (h : r.contains n = true) :
    r'.contains (r.lower n) = false := by
  have hspan := lower_le h
  have hstart := (sound_of_mem r hr).start
  obtain ⟨hfirst, hlast, hstride⟩ := contains_iff.mp h
  refine Bool.eq_false_iff.mpr fun hletter => ?_
  obtain ⟨hfirst', hlast', hstride'⟩ := contains_iff.mp hletter
  have hreaches : r'.reaches (r.lower r.first) (r.lower r.last) = true := by
    simp only [reaches, Bool.and_eq_true, Nat.ble_eq]
    omega
  obtain ⟨hparity, htwo, hodd⟩ := outOfStep_of_mem r hr r' (List.mem_filter.mpr ⟨hr', hreaches⟩)
  rw [htwo] at hstride'
  -- Letters of a run are in step, so their lower cases are.
  have heven : (n - r.first) % 2 = 0 := by
    rcases hparity with hsingle | hstep
    · omega
    · rwa [hstep] at hstride
  simp only [lower] at *
  omega

theorem toNat_lower (hr : r ∈ caseRuns) (h : r.contains n = true) :
    (Char.ofNat (r.lower n)).toNat = r.lower n := by
  have hspan := lower_le h
  have hvalid : (r.lower n).isValidChar := by
    rcases (sound_of_mem r hr).isValidChar with hlow | ⟨hlow, hhigh⟩
    · exact .inl (by omega)
    · exact .inr ⟨by omega, by omega⟩
  rw [Char.ofNat, dif_pos hvalid]
  rfl

/-- No lower case of the run is in the range. -/
def avoids (r : CaseRun) (range : CodeRange) : Bool :=
  Nat.blt (r.lower r.last) range.1 || Nat.blt range.2 (r.lower r.first)

theorem not_inRanges_lower {ranges : List CodeRange} (hr : r ∈ caseRuns)
    (havoids : ∀ range ∈ ranges, r.avoids range = true) (h : r.contains n = true) :
    inRanges ranges (Char.ofNat (r.lower n)) = false := by
  rw [Bool.eq_false_iff, ne_eq, inRanges_eq_true_iff, toNat_lower hr h]
  rintro ⟨range, hrange, hlow, hhigh⟩
  have hspan := lower_le h
  have hout := havoids range hrange
  simp only [avoids, Bool.or_eq_true, Nat.blt_eq] at hout
  omega

theorem avoids_dotted : ∀ r ∈ caseRuns, ∀ range ∈ [(0x130, 0x130)], r.avoids range = true := by
  decide +kernel

theorem lower_ne_dotted (hr : r ∈ caseRuns) (h : r.contains n = true) :
    Char.ofNat (r.lower n) ≠ 'İ' := by
  intro hdotted
  have hout := not_inRanges_lower hr (avoids_dotted r hr) h
  rw [hdotted] at hout
  exact absurd hout (by decide)

end CaseRun

/-! ## One character -/

theorem lowerChar_of_run {c : Char} {r : CaseRun} (hc : c ≠ 'İ')
    (h : caseRuns.find? (·.contains c.toNat) = some r) :
    lowerChar c = [Char.ofNat (r.lower c.toNat)] := by
  rw [lowerChar, if_neg hc, h]
  rfl

theorem lowerChar_eq_self {c : Char} (hc : c ≠ 'İ')
    (h : ∀ r ∈ caseRuns, r.contains c.toNat = false) : lowerChar c = [c] := by
  have hnone : caseRuns.find? (·.contains c.toNat) = none :=
    List.find?_eq_none.mpr fun r hr => by simp [h r hr]
  rw [lowerChar, if_neg hc, hnone]

/-- What the lower case of a character is made of: an `i` and a dot, or the lower case of a letter
of some run, or the character itself. -/
theorem mem_lowerChar {c d : Char} (h : d ∈ lowerChar c) :
    (d = 'i' ∨ d = '\u0307') ∨
      (∃ r ∈ caseRuns, r.contains c.toNat = true ∧ d = Char.ofNat (r.lower c.toNat)) ∨
      d = c ∧ lowerChar c = [c] := by
  by_cases hc : c = 'İ'
  · rw [lowerChar, if_pos hc] at h
    exact .inl (by simpa using h)
  · cases hrun : caseRuns.find? (·.contains c.toNat) with
    | some r =>
      rw [lowerChar_of_run hc hrun, List.mem_singleton] at h
      have hletter := List.find?_some hrun
      exact .inr (.inl ⟨r, List.mem_of_find?_eq_some hrun, hletter, h⟩)
    | none =>
      have hself : lowerChar c = [c] := by rw [lowerChar, if_neg hc, hrun]
      rw [hself, List.mem_singleton] at h
      exact .inr (.inr ⟨h, hself⟩)

/-- **Lower case is its own lower case.** -/
theorem lowerChar_of_mem {c d : Char} (h : d ∈ lowerChar c) : lowerChar d = [d] := by
  rcases mem_lowerChar h with (rfl | rfl) | ⟨r, hr, hletter, rfl⟩ | ⟨rfl, hself⟩
  · decide +kernel
  · decide +kernel
  · refine lowerChar_eq_self (CaseRun.lower_ne_dotted hr hletter) fun r' hr' => ?_
    rw [CaseRun.toNat_lower hr hletter]
    exact CaseRun.not_contains_lower hr hr' hletter
  · exact hself

end Text
end WorkedEquations
