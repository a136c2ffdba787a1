/-
Other spellings of a text, and that nothing depends on them.

`Respelt plain text` says that `text` is `plain` with some characters spelt
otherwise: digits of four more scripts, the typographic signs, capitals, a
raised two; and with white space put in anywhere.

Both have the same canonical form (`Respelt.normalize_eq`), by induction on the
spelling, from one fact about each character (`Spells.normalChar_eq`). A text
that is taken as it stands is canonical (`Worked.canonical_eq_given`), so an
equation is worked out alike in every spelling (`solveWith_respelt`).
-/
import WorkedEquations.Proofs.Equation.Systems
import WorkedEquations.Solution.Worked

namespace WorkedEquations

/-- `glyph` is another way to write some ASCII characters as one. -/
inductive Spells : List Char → Char → Prop where
  /-- A digit that is Arabic-Indic, Extended Arabic-Indic, Devanagari or full-width. -/
  | digit {first d : Nat} : first ∈ [0x660, 0x6F0, 0x966, 0xFF10] → d ≤ 9 →
      Spells [Char.ofNat (0x30 + d)] (Char.ofNat (first + d))
  | point : Spells ['.'] '\u066B'
  | minus {glyph : Char} : glyph = '\u2212' ∨ glyph = '\u2013' → Spells ['-'] glyph
  | times {glyph : Char} : glyph = '\u00D7' ∨ glyph = '\u00B7' → Spells ['*'] glyph
  | square : Spells ['^', '2'] '\u00B2'
  | capital {letter : Char} : 'a' ≤ letter → letter ≤ 'z' → Spells [letter] letter.toUpper

/-- `text` is `plain` with other spellings and more white space. -/
inductive Respelt : (plain text : List Char) → Prop where
  | nil : Respelt [] []
  | keep (c : Char) {plain text : List Char} : Respelt plain text → Respelt (c :: plain) (c :: text)
  | blank {c : Char} {plain text : List Char} : Text.isBlank c = true → Respelt plain text →
      Respelt plain (c :: text)
  | glyph {spelt : List Char} {c : Char} {plain text : List Char} : Spells spelt c →
      Respelt plain text → Respelt (spelt ++ plain) (c :: text)

/-! ## Characters -/

/-- Only plain characters have other spellings. -/
theorem Spells.plain {spelt : List Char} {c : Char} (h : Spells spelt c) :
    ∀ d ∈ spelt, PlainChar d := by
  cases h with
  | @digit first d _ hd =>
    have hall : ∀ d ≤ 9, PlainChar (Char.ofNat (0x30 + d)) := by decide
    exact List.forall_mem_singleton.mpr (hall d hd)
  | point => exact List.forall_mem_singleton.mpr (by decide)
  | minus _ => exact List.forall_mem_singleton.mpr (by decide)
  | times _ => exact List.forall_mem_singleton.mpr (by decide)
  | square =>
    have hcaret : PlainChar '^' := by decide
    have htwo : PlainChar '2' := by decide
    simp [hcaret, htwo]
  | capital hlow hhigh => exact List.forall_mem_singleton.mpr (.inr (.inl ⟨hlow, hhigh⟩))

theorem normalChar_toUpper {letter : Char} (hlow : 'a' ≤ letter) (hhigh : letter ≤ 'z') :
    normalChar letter.toUpper = [letter] := by
  have hall : ∀ n < 0x80, 0x61 ≤ n → n ≤ 0x7A →
      normalChar (Char.ofNat n).toUpper = [Char.ofNat n] := by
    decide +kernel
  have hlow : 0x61 ≤ letter.toNat := hlow
  have hhigh : letter.toNat ≤ 0x7A := hhigh
  have hletter := hall letter.toNat (by omega) hlow hhigh
  rwa [Char.ofNat_toNat] at hletter

theorem Spells.normalChar_eq {spelt : List Char} {c : Char} (h : Spells spelt c) :
    normalChar c = spelt := by
  cases h with
  | @digit first d hfirst hd =>
    have hall : ∀ first ∈ [0x660, 0x6F0, 0x966, 0xFF10], ∀ d ≤ 9,
        normalChar (Char.ofNat (first + d)) = [Char.ofNat (0x30 + d)] := by
      decide +kernel
    exact hall first hfirst d hd
  | point => decide +kernel
  | minus h => rcases h with rfl | rfl <;> decide +kernel
  | times h => rcases h with rfl | rfl <;> decide +kernel
  | square => decide +kernel
  | capital hlow hhigh => exact normalChar_toUpper hlow hhigh

/-! ## Texts -/

theorem Respelt.flatMap_normalChar_eq {plain text : List Char} (h : Respelt plain text) :
    text.flatMap normalChar = plain.flatMap normalChar := by
  induction h with
  | nil => rfl
  | keep c _ ih => rw [List.flatMap_cons, List.flatMap_cons, ih]
  | blank hc _ ih =>
    have hnone : normalChar _ = [] := if_pos hc
    rw [List.flatMap_cons, hnone, List.nil_append, ih]
  | glyph hc _ ih =>
    rw [List.flatMap_cons, List.flatMap_append, hc.normalChar_eq,
      flatMap_normalChar_eq_self hc.plain, ih]

/-- **Another spelling has the same canonical form.** -/
theorem Respelt.normalize_eq {plain text : String} (h : Respelt plain.toList text.toList) :
    normalize text = normalize plain := by
  rw [normalize, normalize, h.flatMap_normalChar_eq]

/-! ## Equations -/

namespace Worked

/-- The texts of an equation as they stand, the second one for a system only. -/
def given (first : String) (second : Option String) : Family → String × Option String
  | .system => (first, some (second.getD ""))
  | _ => (first, none)

theorem canonical_system (first : String) (second : Option String) :
    canonical first second .system = (normalize first, some (normalize (second.getD ""))) := by
  cases second <;> rfl

theorem canonical_of_ne_system {family : Family} (hfamily : family ≠ .system) (first : String)
    (second : Option String) : canonical first second family = (normalize first, none) := by
  cases family with
  | system => exact absurd rfl hfamily
  | linear => rfl
  | quadratic => rfl

/-- Texts that are taken as they stand are canonical. -/
theorem canonical_eq_given {first : String} {second : Option String} {family : Family} {e : Equation}
    (h : classified (given first second family) family = .ok e) :
    canonical first second family = given first second family := by
  cases family with
  | linear =>
    have hfirst : WritesLinear first e := classifyLinear_eq_ok_iff.mp h
    simp only [canonical, given, normalize_eq_self hfirst.plain]
  | quadratic =>
    have hfirst : WritesQuadratic first e := classifyQuadratic_eq_ok_iff.mp h
    simp only [canonical, given, normalize_eq_self hfirst.plain]
  | system =>
    obtain ⟨r, s, hfirst, hsecond, -⟩ := classifySystem_eq_ok_iff.mp h
    simp only [canonical_system, given, normalize_eq_self hfirst.plain,
      normalize_eq_self hsecond.plain]

end Worked

theorem Respelt.canonical_eq {family : Family} {first text : String} {second text' : Option String}
    (h : Respelt first.toList text.toList)
    (h' : family = .system → Respelt (second.getD "").toList (text'.getD "").toList) :
    Worked.canonical text text' family = Worked.canonical first second family := by
  cases family with
  | linear => simp only [Worked.canonical, h.normalize_eq]
  | quadratic => simp only [Worked.canonical, h.normalize_eq]
  | system => rw [Worked.canonical_system, Worked.canonical_system, h.normalize_eq, (h' rfl).normalize_eq]

/-- **What comes of an equation does not depend on its spelling**, nor on that of the second text of
a system. One that is taken as it stands is worked out under its own text in every spelling. -/
theorem solveWith_respelt {settings : Settings} {family : Family} {first text : String}
    {second text' : Option String} (h : Respelt first.toList text.toList)
    (h' : family = .system → Respelt (second.getD "").toList (text'.getD "").toList) :
    solveWith settings text text' family = solveWith settings first second family ∧
      ∀ e, Worked.classified (Worked.given first second family) family = .ok e →
        solveWith settings text text' family = .ok (Worked.ofEquation settings family
          (Worked.textOf (Worked.given first second family)) e) := by
  have hcanonical := h.canonical_eq h'
  constructor
  · simp only [solveWith, hcanonical]
  · intro e he
    simp only [solveWith, hcanonical, Worked.canonical_eq_given he, he]
    rfl

/-- A system in capitals, with Arabic-Indic and full-width digits, a typographic minus and white
space is solved as it is without them, under its plain text. -/
theorem solveWith_respelt_system :
    ∃ w, solveWith .default "\u0662X + 3y =\uFF17" (some "x \u2212 Y\u3000=1") .system = .ok w ∧
      solveWith .default "2x+3y=7" (some "x-y=1") .system = .ok w ∧
        w.equation = "2x+3y=7; x-y=1" := by
  have htwo : Spells ['2'] '\u0662' := .digit (d := 2) (show 0x660 ∈ _ by decide) (by decide)
  have hseven : Spells ['7'] '\uFF17' := .digit (d := 7) (show 0xFF10 ∈ _ by decide) (by decide)
  have hx : Spells ['x'] 'X' := .capital (by decide) (by decide)
  have hy : Spells ['y'] 'Y' := .capital (by decide) (by decide)
  have hminus : Spells ['-'] '\u2212' := .minus (.inl rfl)
  have hfirst : Respelt "2x+3y=7".toList "\u0662X + 3y =\uFF17".toList :=
    .glyph htwo (.glyph hx (.blank rfl (.keep '+' (.blank rfl (.keep '3' (.keep 'y'
      (.blank rfl (.keep '=' (.glyph hseven .nil)))))))))
  have hsecond : Respelt "x-y=1".toList "x \u2212 Y\u3000=1".toList :=
    .keep 'x' (.blank rfl (.glyph hminus (.blank rfl (.glyph hy (.blank rfl (.keep '='
      (.keep '1' .nil)))))))
  have htaken : (Worked.classified ("2x+3y=7", some "x-y=1") .system).isOk = true := by
    decide +kernel
  obtain ⟨heq, hok⟩ := @solveWith_respelt .default .system _ _ (some "x-y=1")
    (some "x \u2212 Y\u3000=1") hfirst fun _ => hsecond
  cases he : Worked.classified ("2x+3y=7", some "x-y=1") .system with
  | error r =>
    rw [he] at htaken
    cases htaken
  | ok e => exact ⟨_, hok e he, heq ▸ hok e he, rfl⟩

end WorkedEquations
