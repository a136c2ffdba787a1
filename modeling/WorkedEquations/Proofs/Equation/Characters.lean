/-
The characters of accepted texts: ASCII digits, the letters from a to z and
six signs. Such a text is its own canonical form, and no row has a semicolon.

A form with ASCII digits is written with these characters only
(`LinearForm.Valid.plain`, and the same for the other forms), and the canonical
form keeps them as they are (`normalize_eq_self`).
-/
import WorkedEquations.Equation.Normal
import WorkedEquations.Proofs.Equation.Acceptance

namespace WorkedEquations

/-- A character of accepted texts. -/
def PlainChar (c : Char) : Prop :=
  c.isDigit = true ∨ ('a' ≤ c ∧ c ≤ 'z') ∨ c ∈ ['.', '+', '-', '*', '=', '^']

instance : DecidablePred PlainChar := fun c =>
  inferInstanceAs (Decidable (c.isDigit = true ∨ ('a' ≤ c ∧ c ≤ 'z') ∨ c ∈ ['.', '+', '-', '*', '=', '^']))

/-! ## What forms are written with -/

theorem PlainChar.of_isDigit {cs : List Char} (h : ∀ c ∈ cs, c.isDigit = true) :
    ∀ c ∈ cs, PlainChar c := fun c hc => .inl (h c hc)

theorem Sign.plain (sign : Option Sign) : ∀ c ∈ Sign.text sign, PlainChar c := by
  cases sign with
  | none => simp [Sign.text]
  | some sign =>
    have hplus : PlainChar '+' := by decide
    have hminus : PlainChar '-' := by decide
    cases sign with
    | plus => exact List.forall_mem_singleton.mpr hplus
    | minus => exact List.forall_mem_singleton.mpr hminus

theorem Numeral.Valid.plain {n : Numeral} (h : n.Valid Char.isDigit) : ∀ c ∈ n.text, PlainChar c := by
  obtain ⟨whole, fraction⟩ := n
  have hdigits := PlainChar.of_isDigit h.2
  cases fraction with
  | none => simpa [Numeral.text, Numeral.digits] using hdigits
  | some digits =>
    have hpoint : PlainChar '.' := by decide
    simp only [Numeral.digits, Option.getD_some, List.mem_append, or_imp, forall_and] at hdigits
    simpa [Numeral.text, or_imp, forall_and, hpoint] using hdigits

theorem Constant.Valid.plain {k : Constant} (h : k.Valid Char.isDigit) : ∀ c ∈ k.text, PlainChar c := by
  have hnumeral := Numeral.Valid.plain h
  simp only [Constant.text, List.mem_append, or_imp, forall_and]
  exact ⟨Sign.plain k.sign, hnumeral⟩

theorem Term.Valid.plain {t : Term} (h : t.Valid Char.isDigit) : ∀ c ∈ t.text, PlainChar c := by
  obtain ⟨⟨sign, numeral⟩, star, letter⟩ := t
  have hnumeral : ∀ c ∈ (numeral.map Numeral.text).getD [], PlainChar c := by
    cases numeral with
    | none => simp
    | some n => exact (h.multiplier n rfl).plain
  have hstar : ∀ c ∈ starText star, PlainChar c := by
    cases star with
    | false => simp [starText]
    | true => exact List.forall_mem_singleton.mpr (by decide : PlainChar '*')
  have hletter : PlainChar letter := .inr (.inl h.letter)
  simp only [Term.text, Multiplier.text, List.mem_append, List.mem_singleton, or_imp, forall_and,
    forall_eq]
  exact ⟨⟨⟨Sign.plain sign, hnumeral⟩, hstar⟩, hletter⟩

theorem plain_optional_constant {o : Option Constant} (h : ∀ k ∈ o, k.Follows Char.isDigit) :
    ∀ c ∈ (o.map Constant.text).getD [], PlainChar c := by
  cases o with
  | none => simp
  | some k => exact (h k rfl).valid.plain

theorem LinearForm.Valid.plain {f : LinearForm} (h : f.Valid Char.isDigit) :
    ∀ c ∈ f.text, PlainChar c := by
  have hequals : PlainChar '=' := by decide
  simp only [LinearForm.text, List.mem_append, List.mem_cons, or_imp, forall_and, forall_eq]
  exact ⟨⟨h.lead.plain, plain_optional_constant h.constant⟩, hequals, h.right.plain⟩

theorem IsZeroSide.plain {side : List Char} (h : IsZeroSide side) : ∀ c ∈ side, PlainChar c := by
  have hequals : PlainChar '=' := by decide
  have hzero : PlainChar '0' := by decide
  have hpoint : PlainChar '.' := by decide
  rcases h with rfl | ⟨zeros, hzeros, rfl⟩
  · simp [hequals, hzero]
  · simp only [List.mem_cons, or_imp, forall_and, forall_eq]
    exact ⟨hequals, hzero, hpoint, fun c hc => hzeros c hc ▸ hzero⟩

theorem QuadraticForm.Valid.plain {f : QuadraticForm} (h : f.Valid Char.isDigit) :
    ∀ c ∈ f.text, PlainChar c := by
  have hcaret : PlainChar '^' := by decide
  have htwo : PlainChar '2' := by decide
  have hmiddle : ∀ c ∈ (f.middle.map Term.text).getD [], PlainChar c := by
    cases hm : f.middle with
    | none => simp
    | some t => exact (h.middle t hm).plain
  have hsquare : ∀ c ∈ ['^', '2'], PlainChar c := by simp [hcaret, htwo]
  simp only [QuadraticForm.text, List.mem_append, or_imp, forall_and]
  exact ⟨⟨⟨⟨h.lead.plain, hsquare⟩, hmiddle⟩, plain_optional_constant h.constant⟩, h.side.plain⟩

theorem RowForm.Valid.plain {f : RowForm} (h : f.Valid Char.isDigit) :
    ∀ c ∈ f.text, PlainChar c := by
  have hequals : PlainChar '=' := by decide
  simp only [RowForm.text, List.mem_append, List.mem_cons, or_imp, forall_and, forall_eq]
  exact ⟨⟨h.x.plain, h.y.plain⟩, hequals, h.right.plain⟩

/-! ## Accepted texts -/

theorem WritesLinear.plain {text : String} {e : Equation} (h : WritesLinear text e) :
    ∀ c ∈ text.toList, PlainChar c := by
  obtain ⟨f, -, -, -, htext, hvalid, -⟩ := h
  rw [htext]
  exact hvalid.plain

theorem WritesQuadratic.plain {text : String} {e : Equation} (h : WritesQuadratic text e) :
    ∀ c ∈ text.toList, PlainChar c := by
  obtain ⟨f, -, -, -, htext, hvalid, -⟩ := h
  rw [htext]
  exact hvalid.plain

theorem WritesRow.plain {text : String} {r : Row} (h : WritesRow text r) :
    ∀ c ∈ text.toList, PlainChar c := by
  obtain ⟨f, htext, hvalid, -⟩ := h
  rw [htext]
  exact hvalid.plain

/-! ## Canonical form -/

theorem PlainChar.toNat_lt {c : Char} (h : PlainChar c) : c.toNat < 0x80 := by
  rcases h with h | ⟨-, h⟩ | h
  · simp only [Char.isDigit, Bool.and_eq_true, decide_eq_true_eq] at h
    have hnine : c.toNat ≤ 0x39 := h.2
    omega
  · have hz : c.toNat ≤ 0x7A := h
    omega
  · simp only [List.mem_cons, List.not_mem_nil, or_false] at h
    rcases h with rfl | rfl | rfl | rfl | rfl | rfl <;> decide

theorem PlainChar.normalChar_eq {c : Char} (h : PlainChar c) : normalChar c = [c] := by
  have hall : ∀ n < 0x80, PlainChar (Char.ofNat n) → normalChar (Char.ofNat n) = [Char.ofNat n] := by
    decide +kernel
  have hc := hall c.toNat h.toNat_lt
  rw [Char.ofNat_toNat] at hc
  exact hc h

/-- Characters that stay as they are make a text that stays. -/
theorem flatMap_eq_self_of_stays {cs : List Char} (h : ∀ c ∈ cs, normalChar c = [c]) :
    cs.flatMap normalChar = cs := by
  have hstay : cs.flatMap normalChar = cs.flatMap fun c => [c] := List.flatMap_congr h
  rw [hstay, List.flatMap_singleton']

theorem flatMap_normalChar_eq_self {cs : List Char} (h : ∀ c ∈ cs, PlainChar c) :
    cs.flatMap normalChar = cs := flatMap_eq_self_of_stays fun c hc => (h c hc).normalChar_eq

/-- **Plain texts are canonical.** -/
theorem normalize_eq_self {text : String} (h : ∀ c ∈ text.toList, PlainChar c) :
    normalize text = text := by
  rw [normalize, flatMap_normalChar_eq_self h, String.ofList_toList]

end WorkedEquations
