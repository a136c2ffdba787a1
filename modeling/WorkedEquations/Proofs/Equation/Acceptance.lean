/-
Which texts are taken as equations, with which numbers, and why the others are
refused.

A text writes an equation (`WritesLinear`, `WritesQuadratic`, `WritesRow`) if
it is the text of a valid form with ASCII digits whose coefficients all denote
finite numbers. A refusal complains of the size of a coefficient only for a
text that is of the form with the decimal digits of any script.

`classifyLinear_eq_iff` and `classifyQuadratic_eq_iff` give the outcome for
every text, `classifyRow_eq_ok_iff` and `classifyRow_eq_error_iff` that for a
row.

The check of a star looks for an ASCII digit before it, and it comes before
all numbers: so a foreign numeral with a star hides that an earlier
coefficient is too large, and one without a star does not.
-/
import WorkedEquations.Proofs.Equation.Coefficients

namespace WorkedEquations

/-! ## Valid forms with ASCII digits -/

theorem Numeral.valid_isDigit_iff {n : Numeral} : n.Valid Char.isDigit ↔
    n.Valid Text.isDecimalDigit ∧ ∀ d ∈ n.digits, d.isDigit = true :=
  ⟨fun h => ⟨⟨h.1, fun c hc => Text.isDecimalDigit_of_isDigit (h.2 c hc)⟩, h.2⟩, fun h => ⟨h.1.1, h.2⟩⟩

theorem Constant.valid_isDigit_iff {c : Constant} : c.Valid Char.isDigit ↔
    c.Valid Text.isDecimalDigit ∧ c.Ascii := Numeral.valid_isDigit_iff

theorem Term.valid_isDigit_iff {t : Term} : t.Valid Char.isDigit ↔
    t.Valid Text.isDecimalDigit ∧ ∀ c ∈ t.multiplier.explicit, c.Ascii := by
  have hm : t.multiplier.Valid Char.isDigit ↔
      t.multiplier.Valid Text.isDecimalDigit ∧ ∀ c ∈ t.multiplier.explicit, c.Ascii := by
    obtain ⟨⟨sign, numeral⟩, star, letter⟩ := t
    cases numeral with
    | none => simp [Multiplier.Valid, Multiplier.explicit]
    | some n => simp [Multiplier.Valid, Multiplier.explicit, Numeral.valid_isDigit_iff, Constant.Ascii]
  constructor
  · intro h
    obtain ⟨hvalid, hascii⟩ := hm.mp h.multiplier
    exact ⟨⟨hvalid, h.letter⟩, hascii⟩
  · intro h
    exact ⟨hm.mpr ⟨h.1.multiplier, h.2⟩, h.1.letter⟩

theorem Term.follows_isDigit_iff {t : Term} : t.Follows Char.isDigit ↔
    t.Follows Text.isDecimalDigit ∧ ∀ c ∈ t.multiplier.explicit, c.Ascii := by
  constructor
  · intro h
    obtain ⟨hvalid, hascii⟩ := Term.valid_isDigit_iff.mp h.toValid
    exact ⟨⟨hvalid, h.sign⟩, hascii⟩
  · intro h
    exact ⟨Term.valid_isDigit_iff.mpr ⟨h.1.toValid, h.2⟩, h.1.sign⟩

theorem Constant.follows_isDigit_iff {c : Constant} : c.Follows Char.isDigit ↔
    c.Follows Text.isDecimalDigit ∧ c.Ascii := by
  constructor
  · intro h
    obtain ⟨hvalid, hascii⟩ := Constant.valid_isDigit_iff.mp h.valid
    exact ⟨⟨hvalid, h.sign⟩, hascii⟩
  · intro h
    exact ⟨Constant.valid_isDigit_iff.mpr ⟨h.1.valid, h.2⟩, h.1.sign⟩

/-! ## Stars -/

/-- A star stands only after a numeral. -/
def Term.StarAfterNumeral (t : Term) : Prop := t.star = true → t.multiplier.numeral.isSome

/-- A star stands only after a numeral with an ASCII digit. -/
def Term.StarAfterDigit (t : Term) : Prop :=
  t.star = true → ∃ n ∈ t.multiplier.numeral, ∃ d ∈ n.digits, d.isDigit = true

theorem Term.starAllowed_iff {t : Term} : t.starAllowed = true ↔ t.StarAfterDigit := by
  obtain ⟨⟨sign, numeral⟩, star, letter⟩ := t
  cases star <;> cases numeral <;>
    simp [starAllowed, StarAfterDigit, Multiplier.admitsStar, Numeral.hasAsciiDigit]

/-- Where all digits are ASCII ones, any numeral will do. -/
theorem Term.Valid.starAfterDigit_iff {t : Term} (h : t.Valid Char.isDigit) :
    t.StarAfterDigit ↔ t.StarAfterNumeral := by
  refine forall_congr' fun _ => ?_
  rw [Option.isSome_iff_exists]
  constructor
  · intro ⟨n, hn, _⟩
    exact ⟨n, hn⟩
  · intro ⟨n, hn⟩
    obtain ⟨hne, hdigits⟩ := h.multiplier n hn
    obtain ⟨d, hd⟩ := List.exists_mem_of_ne_nil n.digits hne
    exact ⟨n, hn, d, hd, hdigits d hd⟩

/-! ## The outcome for any kind of form -/

/-- Why a text is refused: it is empty; or the first coefficient without a number is too large; or
it is neither of those nor the text of an equation. -/
inductive RefusedFor (text : String) (written : Prop) (tooLarge : List Char → Prop) :
    Refusal.Cause → Prop where
  | empty : text = "" → RefusedFor text written tooLarge .empty
  | tooLarge {token : List Char} : tooLarge token →
      RefusedFor text written tooLarge (.tooLarge text (String.ofList token))
  | mismatch : text ≠ "" → ¬ written → (∀ token, ¬ tooLarge token) →
      RefusedFor text written tooLarge (.mismatch text)

theorem refusedFor_iff {text : String} {written : Prop} {tooLarge : List Char → Prop}
    {cause : Refusal.Cause} : RefusedFor text written tooLarge cause ↔
      (text = "" ∧ cause = .empty) ∨
        (∃ token, tooLarge token ∧ cause = .tooLarge text (String.ofList token)) ∨
          (text ≠ "" ∧ ¬ written ∧ (∀ token, ¬ tooLarge token) ∧ cause = .mismatch text) := by
  constructor
  · intro h
    cases h with
    | empty h => exact .inl ⟨h, rfl⟩
    | tooLarge h => exact .inr (.inl ⟨_, h, rfl⟩)
    | mismatch hne hw ht => exact .inr (.inr ⟨hne, hw, ht, rfl⟩)
  · rintro (⟨h, rfl⟩ | ⟨token, h, rfl⟩ | ⟨hne, hw, ht, rfl⟩)
    · exact .empty h
    · exact .tooLarge h
    · exact .mismatch hne hw ht

section
variable {φ α : Type} {family : Family} {find : List Char → Option φ} {allowed : φ → Bool}
  {read : φ → Except Unreadable α} {text : String}

variable (family find allowed read text) in
/-- The three ways a text goes: it is empty, it has no allowed form, or its form is read. -/
theorem classifyForm_cases :
    (text = "" ∧ classifyForm family find allowed read text = .error ⟨family, .empty⟩) ∨
      (text ≠ "" ∧ (¬ ∃ f, find text.toList = some f ∧ allowed f = true) ∧
        classifyForm family find allowed read text = .error ⟨family, .mismatch text⟩) ∨
      (text ≠ "" ∧ ∃ f, find text.toList = some f ∧ allowed f = true ∧
        classifyForm family find allowed read text =
          (read f).mapError (Unreadable.toRefusal family text)) := by
  by_cases hempty : text = ""
  · exact .inl ⟨hempty, by simp [classifyForm, hempty]⟩
  cases hf : find text.toList with
  | none => exact .inr (.inl ⟨hempty, by simp, by simp [classifyForm, hempty, hf]⟩)
  | some f =>
    by_cases hallowed : allowed f = true
    · exact .inr (.inr ⟨hempty, f, rfl, hallowed, by simp [classifyForm, hempty, hf, hallowed]⟩)
    · exact .inr (.inl ⟨hempty, by simp [hallowed], by simp [classifyForm, hempty, hf, hallowed]⟩)

theorem classifyForm_eq_ok_iff (hnil : find [] = none) {x : α} :
    classifyForm family find allowed read text = .ok x ↔
      ∃ f, find text.toList = some f ∧ allowed f = true ∧ read f = .ok x := by
  rcases classifyForm_cases family find allowed read text with
    ⟨rfl, h⟩ | ⟨-, hnone, h⟩ | ⟨-, f, hf, hallowed, h⟩ <;> rw [h]
  · simp [hnil]
  · simp only [reduceCtorEq, false_iff]
    intro ⟨f, hf, ha, _⟩
    exact hnone ⟨f, hf, ha⟩
  · cases hread : read f <;> simp [hf, hallowed, hread, Except.mapError]

theorem classifyForm_eq_error_iff {written : α → Prop} {tooLarge : List Char → Prop}
    (hnil : find [] = none)
    (hw : ∀ x, written x ↔ ∃ f, find text.toList = some f ∧ allowed f = true ∧ read f = .ok x)
    (ht : ∀ token, tooLarge token ↔
      ∃ f, find text.toList = some f ∧ allowed f = true ∧ read f = .error (.tooLarge token))
    {r : Refusal} : classifyForm family find allowed read text = .error r ↔
      r.family = family ∧ RefusedFor text (∃ x, written x) tooLarge r.cause := by
  have cause_iff (c : Refusal.Cause) : (⟨family, c⟩ : Refusal) = r ↔
      r.family = family ∧ r.cause = c := by
    cases r
    simp [eq_comm]
  simp only [refusedFor_iff, hw, ht]
  rcases classifyForm_cases family find allowed read text with
    ⟨rfl, h⟩ | ⟨hempty, hnone, h⟩ | ⟨hempty, f, hf, hallowed, h⟩ <;> rw [h]
  · simp [hnil, cause_iff]
  · have hread (u : Except Unreadable α) :
        ¬ ∃ f, find text.toList = some f ∧ allowed f = true ∧ read f = u := by
      intro ⟨f, hf, ha, _⟩
      exact hnone ⟨f, hf, ha⟩
    simp [hread, hempty, cause_iff]
  · cases hread : read f with
    | ok x => simp [hf, hallowed, hread, hempty, Except.mapError]
    | error u =>
      cases u <;>
        simp [hf, hallowed, hread, hempty, Except.mapError, Unreadable.toRefusal, cause_iff]

end

/-! ## Coefficients in the order they are read in -/

def LinearForm.coefficients (f : LinearForm) : List Constant :=
  f.lead.multiplier.explicit.toList ++ (f.constant.toList ++ [f.right])

def QuadraticForm.coefficients (f : QuadraticForm) : List Constant :=
  f.lead.multiplier.explicit.toList ++
    ((f.middle.bind (·.multiplier.explicit)).toList ++ f.constant.toList)

def RowForm.coefficients (f : RowForm) : List Constant :=
  f.x.multiplier.explicit.toList ++ (f.y.multiplier.explicit.toList ++ [f.right])

theorem LinearForm.valid_isDigit_iff {f : LinearForm} : f.Valid Char.isDigit ↔
    f.Valid Text.isDecimalDigit ∧ ∀ c ∈ f.coefficients, c.Ascii := by
  simp only [coefficients, List.mem_append, Option.mem_toList, List.mem_singleton, or_imp,
    forall_and, forall_eq]
  constructor
  · intro ⟨hl, hc, hr⟩
    obtain ⟨hl, hla⟩ := Term.valid_isDigit_iff.mp hl
    obtain ⟨hr, hra⟩ := Constant.valid_isDigit_iff.mp hr
    have hc := fun c h => Constant.follows_isDigit_iff.mp (hc c h)
    exact ⟨⟨hl, fun c h => (hc c h).1, hr⟩, hla, fun c h => (hc c h).2, hra⟩
  · intro ⟨⟨hl, hc, hr⟩, hla, hca, hra⟩
    exact ⟨Term.valid_isDigit_iff.mpr ⟨hl, hla⟩,
      fun c h => Constant.follows_isDigit_iff.mpr ⟨hc c h, hca c h⟩,
      Constant.valid_isDigit_iff.mpr ⟨hr, hra⟩⟩

theorem QuadraticForm.valid_isDigit_iff {f : QuadraticForm} : f.Valid Char.isDigit ↔
    f.Valid Text.isDecimalDigit ∧ ∀ c ∈ f.coefficients, c.Ascii := by
  simp only [coefficients, List.mem_append, Option.mem_toList,
    Option.bind_eq_some_iff, or_imp, forall_and, forall_exists_index, and_imp]
  constructor
  · intro ⟨hl, hm, hc, hs⟩
    obtain ⟨hl, hla⟩ := Term.valid_isDigit_iff.mp hl
    have hm := fun t h => Term.follows_isDigit_iff.mp (hm t h)
    have hc := fun c h => Constant.follows_isDigit_iff.mp (hc c h)
    exact ⟨⟨hl, fun t h => (hm t h).1, fun c h => (hc c h).1, hs⟩, hla,
      fun c t ht => (hm t ht).2 c, fun c h => (hc c h).2⟩
  · intro ⟨⟨hl, hm, hc, hs⟩, hla, hma, hca⟩
    exact ⟨Term.valid_isDigit_iff.mpr ⟨hl, hla⟩,
      fun t h => Term.follows_isDigit_iff.mpr ⟨hm t h, fun c => hma c t h⟩,
      fun c h => Constant.follows_isDigit_iff.mpr ⟨hc c h, hca c h⟩, hs⟩

theorem RowForm.valid_isDigit_iff {f : RowForm} : f.Valid Char.isDigit ↔
    f.Valid Text.isDecimalDigit ∧ ∀ c ∈ f.coefficients, c.Ascii := by
  simp only [coefficients, List.mem_append, Option.mem_toList, List.mem_singleton, or_imp,
    forall_and, forall_eq]
  constructor
  · intro ⟨hx, hxl, hy, hyl, hr⟩
    obtain ⟨hx, hxa⟩ := Term.valid_isDigit_iff.mp hx
    obtain ⟨hy, hya⟩ := Term.follows_isDigit_iff.mp hy
    obtain ⟨hr, hra⟩ := Constant.valid_isDigit_iff.mp hr
    exact ⟨⟨hx, hxl, hy, hyl, hr⟩, hxa, hya, hra⟩
  · intro ⟨⟨hx, hxl, hy, hyl, hr⟩, hxa, hya, hra⟩
    exact ⟨Term.valid_isDigit_iff.mpr ⟨hx, hxa⟩, hxl, Term.follows_isDigit_iff.mpr ⟨hy, hya⟩, hyl,
      Constant.valid_isDigit_iff.mpr ⟨hr, hra⟩⟩

/-! ## Linear texts -/

/-- The text writes the linear equation. -/
def WritesLinear (text : String) (e : Equation) : Prop :=
  ∃ (f : LinearForm) (a b c : Binary64), text.toList = f.text ∧ f.Valid Char.isDigit ∧
    f.lead.StarAfterNumeral ∧ f.lead.multiplier.Denotes a ∧ Constant.DenotesOptional f.constant b ∧
      f.right.Denotes c ∧ e = ⟨.linear a b c, f.lead.letter⟩

/-- The text has the linear form, and its first coefficient without a number is too large. -/
def LinearTooLarge (text : String) (token : List Char) : Prop :=
  ∃ f : LinearForm, text.toList = f.text ∧ f.Valid Text.isDecimalDigit ∧
    f.lead.StarAfterDigit ∧ FirstTooLarge f.coefficients token

theorem LinearForm.read_eq_ok_iff {f : LinearForm} {e : Equation} : f.read = .ok e ↔
    (∀ c ∈ f.coefficients, c.Ascii) ∧ ∃ a b c, f.lead.multiplier.Denotes a ∧
      Constant.DenotesOptional f.constant b ∧ f.right.Denotes c ∧
        e = ⟨.linear a b c, f.lead.letter⟩ := by
  rw [read, bindThree_eq_ok_iff]
  simp only [Multiplier.read_eq_ok_iff, Constant.readOptional_eq_ok_iff, Constant.read_eq_ok_iff, coefficients,
    List.mem_append, Option.mem_toList, List.mem_singleton, or_imp, forall_and, forall_eq]
  constructor
  · intro ⟨a, b, c, ⟨haa, ha⟩, ⟨hba, hb⟩, ⟨hca, hc⟩, he⟩
    exact ⟨⟨haa, hba, hca⟩, a, b, c, ha, hb, hc, he⟩
  · intro ⟨⟨haa, hba, hca⟩, a, b, c, ha, hb, hc, he⟩
    exact ⟨a, b, c, ⟨haa, ha⟩, ⟨hba, hb⟩, ⟨hca, hc⟩, he⟩

theorem LinearForm.read_eq_tooLarge_iff {f : LinearForm} {token : List Char} :
    f.read = .error (.tooLarge token) ↔ FirstTooLarge f.coefficients token := by
  rw [read, Multiplier.read_eq, Constant.readOptional_eq, show f.right.read = readOr 0 (some f.right) from rfl]
  exact readThree_eq_tooLarge_iff

theorem writesLinear_iff {text : String} {e : Equation} : WritesLinear text e ↔
    ∃ f, LinearForm.ofText? text.toList = some f ∧ f.lead.starAllowed = true ∧ f.read = .ok e := by
  simp only [LinearForm.ofText?_eq_some_iff, Term.starAllowed_iff, LinearForm.read_eq_ok_iff]
  constructor
  · intro ⟨f, a, b, c, htext, hvalid, hstar, hread⟩
    have hstar := hvalid.lead.starAfterDigit_iff.mpr hstar
    obtain ⟨hvalid, hascii⟩ := LinearForm.valid_isDigit_iff.mp hvalid
    exact ⟨f, ⟨hvalid, htext⟩, hstar, hascii, a, b, c, hread⟩
  · intro ⟨f, ⟨hvalid, htext⟩, hstar, hascii, a, b, c, hread⟩
    have hvalid := LinearForm.valid_isDigit_iff.mpr ⟨hvalid, hascii⟩
    exact ⟨f, a, b, c, htext, hvalid, hvalid.lead.starAfterDigit_iff.mp hstar, hread⟩

theorem linearTooLarge_iff {text : String} {token : List Char} : LinearTooLarge text token ↔
    ∃ f, LinearForm.ofText? text.toList = some f ∧ f.lead.starAllowed = true ∧
      f.read = .error (.tooLarge token) := by
  simp only [LinearForm.ofText?_eq_some_iff, Term.starAllowed_iff, LinearForm.read_eq_tooLarge_iff]
  constructor
  · intro ⟨f, htext, hvalid, hstar, hlarge⟩
    exact ⟨f, ⟨hvalid, htext⟩, hstar, hlarge⟩
  · intro ⟨f, ⟨hvalid, htext⟩, hstar, hlarge⟩
    exact ⟨f, htext, hvalid, hstar, hlarge⟩

theorem classifyLinear_eq_ok_iff {text : String} {e : Equation} :
    classifyLinear text = .ok e ↔ WritesLinear text e :=
  (classifyForm_eq_ok_iff rfl).trans writesLinear_iff.symm

theorem classifyLinear_eq_error_iff {text : String} {r : Refusal} :
    classifyLinear text = .error r ↔ r.family = .linear ∧
      RefusedFor text (∃ e, WritesLinear text e) (LinearTooLarge text) r.cause :=
  classifyForm_eq_error_iff rfl (fun _ => writesLinear_iff) (fun _ => linearTooLarge_iff)

/-- **What a text is as a linear equation.** It is taken exactly if it writes one, with the numbers
that are written; the three causes of a refusal exclude each other. -/
theorem classifyLinear_eq_iff (text : String) :
    (∀ e, classifyLinear text = .ok e ↔ WritesLinear text e) ∧
      ∀ r, classifyLinear text = .error r ↔ r.family = .linear ∧
        RefusedFor text (∃ e, WritesLinear text e) (LinearTooLarge text) r.cause :=
  ⟨fun _ => classifyLinear_eq_ok_iff, fun _ => classifyLinear_eq_error_iff⟩

/-! ## Quadratic texts -/

/-- A linear term has the letter of the square. -/
def QuadraticForm.SameLetter (f : QuadraticForm) : Prop :=
  ∀ t ∈ f.middle, t.letter = f.lead.letter

/-- The text writes the quadratic equation. -/
def WritesQuadratic (text : String) (e : Equation) : Prop :=
  ∃ (f : QuadraticForm) (a b c : Binary64), text.toList = f.text ∧ f.Valid Char.isDigit ∧
    f.SameLetter ∧ f.lead.StarAfterNumeral ∧ (∀ t ∈ f.middle, t.StarAfterNumeral) ∧
      f.lead.multiplier.Denotes a ∧ Term.DenotesOptional f.middle b ∧
        Constant.DenotesOptional f.constant c ∧ e = ⟨.quadratic a b c, f.lead.letter⟩

/-- The text has the quadratic form, and its first coefficient without a number is too large. -/
def QuadraticTooLarge (text : String) (token : List Char) : Prop :=
  ∃ f : QuadraticForm, text.toList = f.text ∧ f.Valid Text.isDecimalDigit ∧ f.SameLetter ∧
    f.lead.StarAfterDigit ∧ (∀ t ∈ f.middle, t.StarAfterDigit) ∧ FirstTooLarge f.coefficients token

theorem QuadraticForm.allowed_iff {f : QuadraticForm} :
    (f.lettersAgree && f.starsAllowed) = true ↔
      f.SameLetter ∧ f.lead.StarAfterDigit ∧ ∀ t ∈ f.middle, t.StarAfterDigit := by
  simp only [lettersAgree, starsAllowed, SameLetter, Bool.and_eq_true, Term.starAllowed_iff]
  cases f.middle with
  | none => simp
  | some t => simp [Term.starAllowed_iff]

theorem QuadraticForm.read_eq_ok_iff {f : QuadraticForm} {e : Equation} : f.read = .ok e ↔
    (∀ c ∈ f.coefficients, c.Ascii) ∧ ∃ a b c, f.lead.multiplier.Denotes a ∧
      Term.DenotesOptional f.middle b ∧ Constant.DenotesOptional f.constant c ∧
        e = ⟨.quadratic a b c, f.lead.letter⟩ := by
  rw [read, bindThree_eq_ok_iff]
  simp only [Multiplier.read_eq_ok_iff, Term.readOptional_eq_ok_iff, Constant.readOptional_eq_ok_iff,
    coefficients, List.mem_append, Option.mem_toList, Option.bind_eq_some_iff, or_imp, forall_and,
    forall_exists_index, and_imp]
  constructor
  · intro ⟨a, b, c, ⟨haa, ha⟩, ⟨hba, hb⟩, ⟨hca, hc⟩, he⟩
    exact ⟨⟨haa, fun c t ht => hba t ht c, hca⟩, a, b, c, ha, hb, hc, he⟩
  · intro ⟨⟨haa, hba, hca⟩, a, b, c, ha, hb, hc, he⟩
    exact ⟨a, b, c, ⟨haa, ha⟩, ⟨fun t ht c => hba c t ht, hb⟩, ⟨hca, hc⟩, he⟩

theorem QuadraticForm.read_eq_tooLarge_iff {f : QuadraticForm} {token : List Char} :
    f.read = .error (.tooLarge token) ↔ FirstTooLarge f.coefficients token := by
  obtain ⟨missing, hmiddle⟩ := Term.readOptional_eq f.middle
  rw [read, Multiplier.read_eq, hmiddle, Constant.readOptional_eq]
  exact readThree_eq_tooLarge_iff

theorem writesQuadratic_iff {text : String} {e : Equation} : WritesQuadratic text e ↔
    ∃ f, QuadraticForm.ofText? text.toList = some f ∧ (f.lettersAgree && f.starsAllowed) = true ∧
      f.read = .ok e := by
  simp only [QuadraticForm.ofText?_eq_some_iff, QuadraticForm.allowed_iff,
    QuadraticForm.read_eq_ok_iff]
  constructor
  · intro ⟨f, a, b, c, htext, hvalid, hletters, hlead, hmiddle, hread⟩
    have hlead := hvalid.lead.starAfterDigit_iff.mpr hlead
    have hmiddle := fun t ht => (hvalid.middle t ht).starAfterDigit_iff.mpr (hmiddle t ht)
    obtain ⟨hvalid, hascii⟩ := QuadraticForm.valid_isDigit_iff.mp hvalid
    exact ⟨f, ⟨hvalid, htext⟩, ⟨hletters, hlead, hmiddle⟩, hascii, a, b, c, hread⟩
  · intro ⟨f, ⟨hvalid, htext⟩, ⟨hletters, hlead, hmiddle⟩, hascii, a, b, c, hread⟩
    have hvalid := QuadraticForm.valid_isDigit_iff.mpr ⟨hvalid, hascii⟩
    have hlead := hvalid.lead.starAfterDigit_iff.mp hlead
    have hmiddle := fun t ht => (hvalid.middle t ht).starAfterDigit_iff.mp (hmiddle t ht)
    exact ⟨f, a, b, c, htext, hvalid, hletters, hlead, hmiddle, hread⟩

theorem quadraticTooLarge_iff {text : String} {token : List Char} : QuadraticTooLarge text token ↔
    ∃ f, QuadraticForm.ofText? text.toList = some f ∧ (f.lettersAgree && f.starsAllowed) = true ∧
      f.read = .error (.tooLarge token) := by
  simp only [QuadraticForm.ofText?_eq_some_iff, QuadraticForm.allowed_iff,
    QuadraticForm.read_eq_tooLarge_iff]
  constructor
  · intro ⟨f, htext, hvalid, hletters, hlead, hmiddle, hlarge⟩
    exact ⟨f, ⟨hvalid, htext⟩, ⟨hletters, hlead, hmiddle⟩, hlarge⟩
  · intro ⟨f, ⟨hvalid, htext⟩, ⟨hletters, hlead, hmiddle⟩, hlarge⟩
    exact ⟨f, htext, hvalid, hletters, hlead, hmiddle, hlarge⟩

theorem classifyQuadratic_eq_ok_iff {text : String} {e : Equation} :
    classifyQuadratic text = .ok e ↔ WritesQuadratic text e :=
  (classifyForm_eq_ok_iff rfl).trans writesQuadratic_iff.symm

theorem classifyQuadratic_eq_error_iff {text : String} {r : Refusal} :
    classifyQuadratic text = .error r ↔ r.family = .quadratic ∧
      RefusedFor text (∃ e, WritesQuadratic text e) (QuadraticTooLarge text) r.cause :=
  classifyForm_eq_error_iff rfl (fun _ => writesQuadratic_iff) (fun _ => quadraticTooLarge_iff)

/-- **What a text is as a quadratic equation.** -/
theorem classifyQuadratic_eq_iff (text : String) :
    (∀ e, classifyQuadratic text = .ok e ↔ WritesQuadratic text e) ∧
      ∀ r, classifyQuadratic text = .error r ↔ r.family = .quadratic ∧
        RefusedFor text (∃ e, WritesQuadratic text e) (QuadraticTooLarge text) r.cause :=
  ⟨fun _ => classifyQuadratic_eq_ok_iff, fun _ => classifyQuadratic_eq_error_iff⟩

example : classifyQuadratic "x^2-4y+3=0" = .error ⟨.quadratic, .mismatch "x^2-4y+3=0"⟩ := rfl

/-! ## Rows -/

/-- The text writes the row. -/
def WritesRow (text : String) (r : Row) : Prop :=
  ∃ f : RowForm, text.toList = f.text ∧ f.Valid Char.isDigit ∧ f.x.StarAfterNumeral ∧
    f.y.StarAfterNumeral ∧ f.x.multiplier.Denotes r.a ∧ f.y.multiplier.Denotes r.b ∧
      f.right.Denotes r.c

/-- The text has the form of a row, and its first coefficient without a number is too large. -/
def RowTooLarge (text : String) (token : List Char) : Prop :=
  ∃ f : RowForm, text.toList = f.text ∧ f.Valid Text.isDecimalDigit ∧ f.x.StarAfterDigit ∧
    f.y.StarAfterDigit ∧ FirstTooLarge f.coefficients token

theorem RowForm.starsAllowed_iff {f : RowForm} :
    f.starsAllowed = true ↔ f.x.StarAfterDigit ∧ f.y.StarAfterDigit := by
  simp only [starsAllowed, Bool.and_eq_true, Term.starAllowed_iff]

theorem RowForm.read_eq_ok_iff {f : RowForm} {r : Row} : f.read = .ok r ↔
    (∀ c ∈ f.coefficients, c.Ascii) ∧ f.x.multiplier.Denotes r.a ∧ f.y.multiplier.Denotes r.b ∧
      f.right.Denotes r.c := by
  rw [read, bindThree_eq_ok_iff]
  simp only [Multiplier.read_eq_ok_iff, Constant.read_eq_ok_iff, coefficients, List.mem_append,
    Option.mem_toList, List.mem_singleton, or_imp, forall_and, forall_eq]
  constructor
  · intro ⟨a, b, c, ⟨haa, ha⟩, ⟨hba, hb⟩, ⟨hca, hc⟩, hr⟩
    subst hr
    exact ⟨⟨haa, hba, hca⟩, ha, hb, hc⟩
  · intro ⟨⟨haa, hba, hca⟩, ha, hb, hc⟩
    exact ⟨r.a, r.b, r.c, ⟨haa, ha⟩, ⟨hba, hb⟩, ⟨hca, hc⟩, rfl⟩

theorem RowForm.read_eq_tooLarge_iff {f : RowForm} {token : List Char} :
    f.read = .error (.tooLarge token) ↔ FirstTooLarge f.coefficients token := by
  rw [read, Multiplier.read_eq, Multiplier.read_eq,
    show f.right.read = readOr 0 (some f.right) from rfl]
  exact readThree_eq_tooLarge_iff

theorem writesRow_iff {text : String} {r : Row} : WritesRow text r ↔
    ∃ f, RowForm.ofText? text.toList = some f ∧ f.starsAllowed = true ∧ f.read = .ok r := by
  simp only [RowForm.ofText?_eq_some_iff, RowForm.starsAllowed_iff, RowForm.read_eq_ok_iff]
  constructor
  · intro ⟨f, htext, hvalid, hx, hy, hread⟩
    have hx := hvalid.x.starAfterDigit_iff.mpr hx
    have hy := hvalid.y.starAfterDigit_iff.mpr hy
    obtain ⟨hvalid, hascii⟩ := RowForm.valid_isDigit_iff.mp hvalid
    exact ⟨f, ⟨hvalid, htext⟩, ⟨hx, hy⟩, hascii, hread⟩
  · intro ⟨f, ⟨hvalid, htext⟩, ⟨hx, hy⟩, hascii, hread⟩
    have hvalid := RowForm.valid_isDigit_iff.mpr ⟨hvalid, hascii⟩
    have hx := hvalid.x.starAfterDigit_iff.mp hx
    have hy := hvalid.y.starAfterDigit_iff.mp hy
    exact ⟨f, htext, hvalid, hx, hy, hread⟩

theorem rowTooLarge_iff {text : String} {token : List Char} : RowTooLarge text token ↔
    ∃ f, RowForm.ofText? text.toList = some f ∧ f.starsAllowed = true ∧
      f.read = .error (.tooLarge token) := by
  simp only [RowForm.ofText?_eq_some_iff, RowForm.starsAllowed_iff, RowForm.read_eq_tooLarge_iff]
  constructor
  · intro ⟨f, htext, hvalid, hx, hy, hlarge⟩
    exact ⟨f, ⟨hvalid, htext⟩, ⟨hx, hy⟩, hlarge⟩
  · intro ⟨f, ⟨hvalid, htext⟩, ⟨hx, hy⟩, hlarge⟩
    exact ⟨f, htext, hvalid, hx, hy, hlarge⟩

theorem classifyRow_eq_ok_iff {text : String} {r : Row} :
    classifyRow text = .ok r ↔ WritesRow text r :=
  (classifyForm_eq_ok_iff rfl).trans writesRow_iff.symm

theorem classifyRow_eq_error_iff {text : String} {r : Refusal} :
    classifyRow text = .error r ↔ r.family = .system ∧
      RefusedFor text (∃ r, WritesRow text r) (RowTooLarge text) r.cause :=
  classifyForm_eq_error_iff rfl (fun _ => writesRow_iff) (fun _ => rowTooLarge_iff)

end WorkedEquations
