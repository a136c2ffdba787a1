/-
The canonical form of any text, whether it is an equation or not.

A character of it is no white space, no localized digit, none of the signs
that have an ASCII spelling, no capital, and its own lower case. These are the
characters that the canonical form leaves alone, so taking it twice is taking
it once. Where the white space stands does not matter.

Canonical characters are those that stay as they are (`canonicalChar_iff`), and
each character is replaced by canonical ones (`canonicalChar_of_mem`). So the
canonical texts are those that stay (`normalize_eq_self_iff`), and the canonical
form of every text is one of them (`normalize_canonical`).
-/
import WorkedEquations.Proofs.Equation.Respelling
import WorkedEquations.Proofs.Text.LowerCase

namespace WorkedEquations

/-- A character of canonical texts. -/
structure CanonicalChar (c : Char) : Prop where
  not_blank : Text.isBlank c = false
  /-- No Arabic-Indic, Extended Arabic-Indic, Devanagari or full-width digit. -/
  not_digit : ∀ first ∈ [0x660, 0x6F0, 0x966, 0xFF10], ∀ d ≤ 9, c ≠ Char.ofNat (first + d)
  not_symbol : c ∉ ['\u066B', '\u2212', '\u2013', '\u00D7', '\u00B7', '\u00B2']
  not_capital : ¬ ('A' ≤ c ∧ c ≤ 'Z')
  lower : Text.lowerChar c = [c]

/-! ## Characters that are taken out or spelt otherwise -/

/-- The code points of the signs that have an ASCII spelling. -/
def symbolRanges : List Text.CodeRange :=
  [(0x66B, 0x66B), (0x2212, 0x2212), (0x2013, 0x2013), (0xD7, 0xD7), (0xB7, 0xB7), (0xB2, 0xB2)]

/-- The code points that the canonical form takes out or spells otherwise, letters apart. -/
def respeltRanges : List Text.CodeRange :=
  Text.blankRanges ++ localZeros.map (fun first => (first, first + 9)) ++ symbolRanges

theorem inRanges_symbol_iff {c : Char} : Text.inRanges symbolRanges c = true ↔
    c ∈ ['\u066B', '\u2212', '\u2013', '\u00D7', '\u00B7', '\u00B2'] := by
  have hone : ∀ d : Char, d.toNat ≤ c.toNat ∧ c.toNat ≤ d.toNat ↔ c = d := fun d =>
    ⟨fun h => Char.toNat_inj.mp (by omega), fun h => h ▸ ⟨le_rfl, le_rfl⟩⟩
  rw [Text.inRanges_eq_true_iff]
  simp only [symbolRanges, List.mem_cons, List.not_mem_nil, or_false, exists_eq_or_imp,
    exists_eq_left, ← hone]
  rfl

theorem inRanges_digit_iff {c : Char} :
    Text.inRanges (localZeros.map fun first => (first, first + 9)) c = true ↔
      ∃ first ∈ [0x660, 0x6F0, 0x966, 0xFF10], ∃ d ≤ 9, c = Char.ofNat (first + d) := by
  have hcode : ∀ first ∈ [0x660, 0x6F0, 0x966, 0xFF10], ∀ d ≤ 9,
      (Char.ofNat (first + d)).toNat = first + d := by decide
  simp only [Text.inRanges_eq_true_iff, List.mem_map, exists_exists_and_eq_and]
  refine exists_congr fun first => and_congr_right fun hfirst => ⟨fun ⟨hlow, hhigh⟩ => ?_, ?_⟩
  · refine ⟨c.toNat - first, by omega, ?_⟩
    rw [Nat.add_sub_cancel' hlow, Char.ofNat_toNat]
  · rintro ⟨d, hd, rfl⟩
    rw [hcode first hfirst d hd]
    omega

theorem inRanges_respelt_iff {c : Char} : Text.inRanges respeltRanges c = true ↔
    Text.isBlank c = true ∨
      (∃ first ∈ [0x660, 0x6F0, 0x966, 0xFF10], ∃ d ≤ 9, c = Char.ofNat (first + d)) ∨
      c ∈ ['\u066B', '\u2212', '\u2013', '\u00D7', '\u00B7', '\u00B2'] := by
  rw [← inRanges_digit_iff, ← inRanges_symbol_iff, Text.isBlank, ← Bool.or_eq_true,
    ← Bool.or_eq_true, ← Bool.or_assoc]
  simp only [Text.inRanges, respeltRanges, List.any_append]

theorem asciiDigit?_eq_none {c : Char}
    (h : Text.inRanges (localZeros.map fun first => (first, first + 9)) c = false) :
    asciiDigit? c = none := by
  have hnone : localZeros.find? (fun first => decide (first ≤ c.toNat) &&
      decide (c.toNat ≤ first + 9)) = none := by
    rw [List.find?_eq_none]
    intro first hfirst hdigit
    rw [Bool.eq_false_iff, ne_eq, Text.inRanges_eq_true_iff] at h
    simp only [Bool.and_eq_true, decide_eq_true_eq] at hdigit
    exact h ⟨_, List.mem_map_of_mem hfirst, hdigit⟩
  rw [asciiDigit?, hnone, Option.map_none]

theorem asciiSymbol?_eq_none {c : Char} (h : Text.inRanges symbolRanges c = false) :
    asciiSymbol? c = none := by
  rw [Bool.eq_false_iff, ne_eq, inRanges_symbol_iff] at h
  unfold asciiSymbol?
  split
  case h_7 => rfl
  all_goals exact absurd (by decide) h

theorem normalChar_eq_lowerChar {c : Char} (h : Text.inRanges respeltRanges c = false) :
    normalChar c = Text.lowerChar c := by
  simp only [Text.inRanges, respeltRanges, List.any_append, Bool.or_eq_false_iff] at h
  obtain ⟨⟨hblank, hdigit⟩, hsymbol⟩ := h
  have hblank : ¬ Text.isBlank c = true := Bool.eq_false_iff.mp hblank
  rw [normalChar, if_neg hblank, asciiDigit?_eq_none hdigit, asciiSymbol?_eq_none hsymbol]

theorem plain_of_respelt {c : Char} (h : Text.inRanges respeltRanges c = true) :
    ∀ d ∈ normalChar c, PlainChar d ∧ d ≠ c := by
  have hall : ∀ range ∈ respeltRanges, ∀ k ≤ range.2 - range.1,
      (normalChar (Char.ofNat (range.1 + k))).all
        (fun d => decide (PlainChar d ∧ d ≠ Char.ofNat (range.1 + k))) = true := by
    decide +kernel
  obtain ⟨range, hrange, hlow, hhigh⟩ := Text.inRanges_eq_true_iff.mp h
  have hc := hall range hrange (c.toNat - range.1) (by omega)
  rw [Nat.add_sub_cancel' hlow, Char.ofNat_toNat] at hc
  exact fun d hd => of_decide_eq_true (List.all_eq_true.mp hc d hd)

/-! ## Characters that stay -/

theorem not_respelt_of_stays {c : Char} (h : normalChar c = [c]) :
    Text.inRanges respeltRanges c = false := by
  refine Bool.eq_false_iff.mpr fun hrespelt => ?_
  exact (plain_of_respelt hrespelt c (by rw [h]; exact List.mem_singleton_self c)).2 rfl

theorem stays_iff {c : Char} :
    normalChar c = [c] ↔ Text.inRanges respeltRanges c = false ∧ Text.lowerChar c = [c] := by
  constructor
  · intro h
    have hkept := not_respelt_of_stays h
    exact ⟨hkept, normalChar_eq_lowerChar hkept ▸ h⟩
  · rintro ⟨hkept, hlower⟩
    rw [normalChar_eq_lowerChar hkept, hlower]

theorem lowerChar_capital {c : Char} (hlow : 'A' ≤ c) (hhigh : c ≤ 'Z') : Text.lowerChar c ≠ [c] := by
  have hall : ∀ n < 0x5B, 0x41 ≤ n → Text.lowerChar (Char.ofNat n) ≠ [Char.ofNat n] := by
    decide +kernel
  have hlow : 0x41 ≤ c.toNat := hlow
  have hhigh : c.toNat ≤ 0x5A := hhigh
  have hc := hall c.toNat (by omega) hlow
  rwa [Char.ofNat_toNat] at hc

/-- **Canonical characters are those that stay as they are.** -/
theorem canonicalChar_iff {c : Char} : CanonicalChar c ↔ normalChar c = [c] := by
  rw [stays_iff, Bool.eq_false_iff, ne_eq, inRanges_respelt_iff]
  constructor
  · intro h
    refine ⟨?_, h.lower⟩
    rintro (hblank | ⟨first, hfirst, d, hd, hc⟩ | hsymbol)
    · exact absurd hblank (Bool.eq_false_iff.mp h.not_blank)
    · exact h.not_digit first hfirst d hd hc
    · exact h.not_symbol hsymbol
  · rintro ⟨hkept, hlower⟩
    exact {
      not_blank := Bool.eq_false_iff.mpr fun hblank => hkept (.inl hblank)
      not_digit := fun first hfirst d hd hc => hkept (.inr (.inl ⟨first, hfirst, d, hd, hc⟩))
      not_symbol := fun hsymbol => hkept (.inr (.inr hsymbol))
      not_capital := fun ⟨hlow, hhigh⟩ => lowerChar_capital hlow hhigh hlower
      lower := hlower }

/-! ## What characters become -/

theorem not_respelt_of_mem_lowerChar {c d : Char} (hc : Text.inRanges respeltRanges c = false)
    (h : d ∈ Text.lowerChar c) : Text.inRanges respeltRanges d = false := by
  -- Whole runs are compared with the ranges, not letters.
  have havoids : ∀ r ∈ Text.caseRuns, ∀ range ∈ respeltRanges, r.avoids range = true := by
    decide +kernel
  rcases Text.mem_lowerChar h with (rfl | rfl) | ⟨r, hr, hletter, rfl⟩ | ⟨rfl, -⟩
  · decide
  · decide
  · exact Text.CaseRun.not_inRanges_lower hr (havoids r hr) hletter
  · exact hc

/-- **Each character becomes canonical ones.** -/
theorem canonicalChar_of_mem {c d : Char} (h : d ∈ normalChar c) : CanonicalChar d := by
  rw [canonicalChar_iff]
  -- A character that is spelt otherwise has become a plain one. Any other has gone through lower
  -- case only, and lower case is never spelt otherwise and is its own lower case.
  cases hc : Text.inRanges respeltRanges c with
  | true => exact (plain_of_respelt hc d h).1.normalChar_eq
  | false =>
    rw [normalChar_eq_lowerChar hc] at h
    exact stays_iff.mpr ⟨not_respelt_of_mem_lowerChar hc h, Text.lowerChar_of_mem h⟩

/-! ## Texts -/

theorem canonicalChar_of_mem_normalize {text : String} {c : Char} (h : c ∈ (normalize text).toList) :
    CanonicalChar c := by
  rw [normalize, String.toList_ofList, List.mem_flatMap] at h
  obtain ⟨_, -, hc⟩ := h
  exact canonicalChar_of_mem hc

/-- **The canonical texts are those that stay as they are.** -/
theorem normalize_eq_self_iff {text : String} :
    normalize text = text ↔ ∀ c ∈ text.toList, CanonicalChar c := by
  constructor
  · intro h c hc
    rw [← h] at hc
    exact canonicalChar_of_mem_normalize hc
  · intro h
    rw [normalize, flatMap_eq_self_of_stays fun c hc => canonicalChar_iff.mp (h c hc),
      String.ofList_toList]

/-- `text` is `plain` with white space put in. -/
inductive Spaced : (plain text : List Char) → Prop where
  | nil : Spaced [] []
  | keep (c : Char) {plain text : List Char} : Spaced plain text → Spaced (c :: plain) (c :: text)
  | blank {c : Char} {plain text : List Char} : Text.isBlank c = true → Spaced plain text →
      Spaced plain (c :: text)

theorem Spaced.respelt {plain text : List Char} (h : Spaced plain text) : Respelt plain text := by
  induction h with
  | nil => exact .nil
  | keep c _ ih => exact .keep c ih
  | blank hc _ ih => exact .blank hc ih

/-- **The canonical form of every text is canonical**, so that it is its own canonical form. White
space in the text, wherever it stands, does not show in it. -/
theorem normalize_canonical (text : String) :
    (∀ c ∈ (normalize text).toList, CanonicalChar c) ∧
      normalize (normalize text) = normalize text ∧
      ∀ spaced : String, Spaced text.toList spaced.toList → normalize spaced = normalize text := by
  have hcanonical : ∀ c ∈ (normalize text).toList, CanonicalChar c := fun _ =>
    canonicalChar_of_mem_normalize
  exact ⟨hcanonical, normalize_eq_self_iff.mpr hcanonical, fun _ h => h.respelt.normalize_eq⟩

/-- A capital with a dot becomes two characters and a raised two becomes two, with and without a
line feed and an ideographic space among them. -/
theorem normalize_canonical_dotted :
    Spaced "\u0130\u00B2\u2212\u0664=0".toList "\u0130\n\u00B2 \u2212\u0664\u3000=0".toList ∧
      normalize "\u0130\n\u00B2 \u2212\u0664\u3000=0" = "i\u0307^2-4=0" ∧
      normalize "i\u0307^2-4=0" = "i\u0307^2-4=0" := by
  have hspaced : Spaced "\u0130\u00B2\u2212\u0664=0".toList
      "\u0130\n\u00B2 \u2212\u0664\u3000=0".toList :=
    .keep _ (.blank rfl (.keep _ (.blank rfl (.keep _ (.keep _ (.blank rfl (.keep _
      (.keep _ .nil))))))))
  have hform : normalize "\u0130\u00B2\u2212\u0664=0" = "i\u0307^2-4=0" := by decide +kernel
  obtain ⟨-, hagain, hspacing⟩ := normalize_canonical "\u0130\u00B2\u2212\u0664=0"
  rw [hform] at hagain hspacing
  exact ⟨hspaced, hspacing _ hspaced, hagain⟩

end WorkedEquations
