/-
The equation at the head of a derivation, taken as an equation again.

A derivation begins by restating its equation, with numbers as they are shown
and blanks between the terms. The restated text is taken as an equation of the
same family in the same unknown, and the coefficients read from it are those
that the shown numbers write.

The canonical form of a restated equation is the text of a form
(`canonical_linearText`, `canonical_quadraticText`, `canonical_rowText`), and a
one that is left out before a variable stands for itself there
(`Constant.inFront_denotes`). `derive_restates` tells what is read back, for
every equation that is taken.
-/
import WorkedEquations.Proofs.Display.Shown
import WorkedEquations.Proofs.Equation.Taken

namespace WorkedEquations

/-! ## A constant before a variable -/

/-- What is written before a variable for a constant: a one is left out. -/
def Constant.inFront (k : Constant) : Multiplier where
  sign := k.sign
  numeral := if k.numeral.text = ['1'] then none else some k.numeral

theorem Numeral.eq_one_of_text {n : Numeral} (h : n.text = ['1']) : n = ⟨['1'], none⟩ := by
  obtain ⟨whole, fraction⟩ := n
  cases fraction with
  | none =>
    simp only [text, List.append_nil] at h
    rw [h]
  | some digits =>
    rcases whole with _ | ⟨c, whole⟩ <;> simp [text] at h

namespace Constant
variable {k : Constant}

/-- **A one that is left out** stands for the number it would write. -/
theorem inFront_denotes {x : Binary64} : k.inFront.Denotes x ↔ k.Denotes x := by
  have hvalue : ((k.inFront.numeral.map Numeral.value).getD 1) = k.numeral.value := by
    unfold inFront
    by_cases h : k.numeral.text = ['1']
    · simp [Numeral.eq_one_of_text h, Numeral.text, Numeral.value, Numeral.digits,
        Nat.ofDigitChars_cons]
    · simp [h]
  rw [Multiplier.Denotes, hvalue]
  rfl

theorem inFront_valid {digit : Char → Bool} (hk : k.Valid digit) : k.inFront.Valid digit := by
  intro n hn
  unfold inFront at hn
  split at hn
  · cases hn
  · cases hn
    exact hk

theorem mem_of_mem_inFront_text {c : Char} (h : c ∈ k.inFront.text) : c ∈ k.text := by
  unfold inFront Multiplier.text at h
  rw [Constant.text, List.mem_append]
  rw [List.mem_append] at h
  refine h.imp_right fun h => ?_
  split at h
  · simp at h
  · exact h

end Constant

/-! ## Terms as they are shown -/

namespace Display
variable (places : Nat) {x : Binary64}

theorem number_eq_iff (hx : x.isFinite = true) {text : String} :
    number places x = text ↔ (shown places x).text = text.toList := by
  rw [← toList_number places hx, String.toList_inj]

/-- The first term of an equation: the number in front of its symbol. -/
theorem toList_leadingTerm (hx : x.isFinite = true) (symbol : String) :
    (leadingTerm places x symbol).toList = (shown places x).inFront.text ++ symbol.toList := by
  have hhead := Numeral.head?_text (Numeral.valid_isDigit_iff.mp (shownNumeral_valid places x)).1 []
  rw [List.append_nil] at hhead
  unfold leadingTerm
  simp only [number_eq_iff places hx, show "1".toList = ['1'] from rfl,
    show "-1".toList = ['-', '1'] from rfl, Constant.text, Constant.inFront, Multiplier.text]
  have hnumeral : (shown places x).numeral = shownNumeral places x := rfl
  rcases shown_sign places x with hsign | hsign <;> rw [hsign, hnumeral]
  · by_cases hone : (shownNumeral places x).text = ['1']
    · simp [hone, Sign.text]
    · have hminus : (shownNumeral places x).text ≠ ['-', '1'] := by
        intro h
        exact absurd (hhead '-' (by rw [h]; rfl)) (by decide)
      simp [hone, hminus, Sign.text, String.toList_append, toList_number places hx, Constant.text, hsign,
        hnumeral]
  · by_cases hone : (shownNumeral places x).text = ['1']
    · simp [hone, Sign.text, Sign.toChar, String.toList_append]
    · simp [hone, Sign.text, Sign.toChar, String.toList_append, toList_number places hx, Constant.text,
        hsign, hnumeral]

theorem shown_abs (hx : x.isFinite = true) : shown places x.abs = ⟨none, shownNumeral places x⟩ := by
  cases x with
  | finite s m =>
    have hneg : ¬ Binary64.finite false m < 0 := by simp [finite_lt_zero_iff]
    simp [shown, Binary64.abs, shownNumeral, magnitude, hneg]
  | nan => cases hx
  | infinite s => cases hx

/-- A further term of an equation: a blank stands between its sign and its number. -/
theorem toList_followingTerm (hx : x.isFinite = true) (symbol : String) :
    ∃ rest, (joined places x).inFront.text = (joiningSign x).toList ++ rest ∧
      (followingTerm places x symbol).toList =
        (joiningSign x).toList ++ ' ' :: (rest ++ symbol.toList) := by
  have habs : x.abs.isFinite = true := by
    cases x with
    | finite s m => rfl
    | nan => cases hx
    | infinite s => cases hx
  refine ⟨(shown places x.abs).inFront.text, ?_, ?_⟩
  · rw [shown_abs places hx, toList_joiningSign places]
    rfl
  · simp [followingTerm, String.toList_append, toList_leadingTerm places habs]

end Display

/-! ## Canonical form of the pieces -/

section
open Display
variable (places : Nat) {x : Binary64}

theorem Constant.Valid.plain_inFront {k : Constant} (hk : k.Valid Char.isDigit) :
    ∀ c ∈ k.inFront.text, PlainChar c := fun c hc => hk.plain c (Constant.mem_of_mem_inFront_text hc)

theorem canonical_number (hx : x.isFinite = true) :
    (number places x).toList.flatMap normalChar = (shown places x).text := by
  rw [toList_number places hx, flatMap_normalChar_eq_self (shown_valid places x).plain]

theorem canonical_leadingTerm (hx : x.isFinite = true) {symbol : String}
    (hsymbol : ∀ c ∈ symbol.toList, PlainChar c) :
    (leadingTerm places x symbol).toList.flatMap normalChar =
      (shown places x).inFront.text ++ symbol.toList := by
  rw [toList_leadingTerm places hx, List.flatMap_append, flatMap_normalChar_eq_self hsymbol,
    flatMap_normalChar_eq_self (shown_valid places x).plain_inFront]

theorem normalChar_blank : normalChar ' ' = [] := by decide +kernel

theorem canonical_followingTerm (hx : x.isFinite = true) {symbol : String}
    (hsymbol : ∀ c ∈ symbol.toList, PlainChar c) :
    (followingTerm places x symbol).toList.flatMap normalChar =
      (joined places x).inFront.text ++ symbol.toList := by
  obtain ⟨rest, htext, hterm⟩ := toList_followingTerm places hx symbol
  have hplain := (joined_valid places x).plain_inFront
  rw [htext] at hplain ⊢
  rw [hterm]
  simp only [List.mem_append, or_imp, forall_and] at hplain
  rw [List.flatMap_append, List.flatMap_cons, List.flatMap_append, normalChar_blank,
    flatMap_normalChar_eq_self hplain.1, flatMap_normalChar_eq_self hplain.2,
    flatMap_normalChar_eq_self hsymbol, List.nil_append, List.append_assoc]

theorem canonical_constant (hx : x.isFinite = true) :
    (constant places x).toList.flatMap normalChar = (joined places x).text := by
  have hsign := Sign.plain (joined places x).sign
  have hnumeral := (shownNumeral_valid places x).plain
  rw [toList_constant places hx, toList_joiningSign places, List.flatMap_append, List.flatMap_cons,
    normalChar_blank, flatMap_normalChar_eq_self hsign, flatMap_normalChar_eq_self hnumeral,
    List.nil_append]
  rfl

end

/-! ## Restated equations as forms -/

section
open Display
variable (places : Nat) {a b c : Binary64} {v : Char}

/-- The constant behind a term; a zero is left out. -/
def restatedConstant (places : Nat) (x : Binary64) : Option Constant :=
  if x.isZero then none else some (joined places x)

/-- The term behind another; a zero is left out. -/
def restatedTerm (places : Nat) (x : Binary64) (v : Char) : Option Term :=
  if x.isZero then none else some ⟨(joined places x).inFront, false, v⟩

/-- The form of a restated linear equation. -/
def restatedLinear (places : Nat) (a b c : Binary64) (v : Char) : LinearForm where
  lead := ⟨(shown places a).inFront, false, v⟩
  constant := restatedConstant places b
  right := shown places c

/-- The form of a restated quadratic equation. -/
def restatedQuadratic (places : Nat) (a b c : Binary64) (v : Char) : QuadraticForm where
  lead := ⟨(shown places a).inFront, false, v⟩
  middle := restatedTerm places b v
  constant := restatedConstant places c
  side := ['=', '0']

/-- The form of a restated row. -/
def restatedRow (places : Nat) (r : Row) : RowForm where
  x := ⟨(shown places r.a).inFront, false, 'x'⟩
  y := ⟨(joined places r.b).inFront, false, 'y'⟩
  right := shown places r.c

theorem PlainChar.symbol (hv : 'a' ≤ v ∧ v ≤ 'z') :
    ∀ d ∈ (String.singleton v).toList, PlainChar d := by
  have hletter : PlainChar v := .inr (.inl hv)
  intro d hd
  rw [String.toList_singleton, List.mem_singleton] at hd
  exact hd ▸ hletter

theorem normalChar_equals : normalChar '=' = ['='] := PlainChar.normalChar_eq (by decide)

theorem canonical_linearText (ha : a.isFinite = true) (hb : b.isFinite = true)
    (hc : c.isFinite = true) (hv : 'a' ≤ v ∧ v ≤ 'z') :
    (Step.linearText places a b c v).toList.flatMap normalChar =
      (restatedLinear places a b c v).text := by
  have hlead := canonical_leadingTerm places ha (PlainChar.symbol hv)
  unfold Step.linearText restatedLinear restatedConstant
  by_cases h : b.isZero = true
  · simp [h, String.toList_append, hlead, canonical_number places hc, normalChar_blank, normalChar_equals,
      LinearForm.text, Term.text, starText]
  · simp [h, String.toList_append, hlead, canonical_constant places hb, canonical_number places hc,
      normalChar_blank, normalChar_equals, LinearForm.text, Term.text, starText]

theorem canonical_quadraticText (ha : a.isFinite = true) (hb : b.isFinite = true)
    (hc : c.isFinite = true) (hv : 'a' ≤ v ∧ v ≤ 'z') :
    (Step.quadraticText places a b c v).toList.flatMap normalChar =
      (restatedQuadratic places a b c v).text := by
  have hsquare : ∀ d ∈ (String.singleton v ++ "^2").toList, PlainChar d := by
    have hcaret : PlainChar '^' := by decide
    have htwo : PlainChar '2' := by decide
    have hletter : PlainChar v := .inr (.inl hv)
    simp [String.toList_append, hletter, hcaret, htwo]
  have hlead := canonical_leadingTerm places ha hsquare
  have hmiddle := canonical_followingTerm places hb (PlainChar.symbol hv)
  have hzero : normalChar '0' = ['0'] := PlainChar.normalChar_eq (by decide)
  unfold Step.quadraticText restatedQuadratic restatedTerm restatedConstant
  by_cases h : b.isZero = true <;> by_cases h' : c.isZero = true <;>
    simp [h, h', String.toList_append, hlead, hmiddle, canonical_constant places hc, normalChar_blank,
      normalChar_equals, hzero, QuadraticForm.text, Term.text, starText]

theorem canonical_rowText {r : Row} (ha : r.a.isFinite = true) (hb : r.b.isFinite = true)
    (hc : r.c.isFinite = true) :
    (Step.rowText places r).toList.flatMap normalChar = (restatedRow places r).text := by
  have hx : ∀ d ∈ "x".toList, PlainChar d := by
    have hletter : PlainChar 'x' := by decide
    simp [hletter]
  have hy : ∀ d ∈ "y".toList, PlainChar d := by
    have hletter : PlainChar 'y' := by decide
    simp [hletter]
  unfold Step.rowText restatedRow
  simp [String.toList_append, canonical_leadingTerm places ha hx, canonical_followingTerm places hb hy,
    canonical_number places hc, normalChar_blank, normalChar_equals, RowForm.text, Term.text, starText]

end

/-! ## Reading restated equations -/

section
open Display
variable (places : Nat) {a b c : Binary64} {v : Char}

theorem Term.starAfterNumeral_of_star_eq_false {t : Term} (h : t.star = false) :
    t.StarAfterNumeral := by
  intro hstar
  rw [h] at hstar
  cases hstar

theorem joined_term_follows (x : Binary64) (hv : 'a' ≤ v ∧ v ≤ 'z') :
    (⟨(joined places x).inFront, false, v⟩ : Term).Follows Char.isDigit :=
  ⟨⟨Constant.inFront_valid (joined_valid places x), hv⟩, rfl⟩

theorem restatedConstant_follows {x : Binary64} :
    ∀ k ∈ restatedConstant places x, k.Follows Char.isDigit := by
  unfold restatedConstant
  split
  · simp
  · rintro k ⟨⟩
    exact ⟨joined_valid places x, rfl⟩

theorem restatedTerm_cases (x : Binary64) (v : Char) :
    restatedTerm places x v = none ∧ x.isZero = true ∨
      restatedTerm places x v = some ⟨(joined places x).inFront, false, v⟩ := by
  unfold restatedTerm
  split
  · next h => exact .inl ⟨rfl, h⟩
  · exact .inr rfl

theorem restatedConstant_denotes {x : Binary64} (hx : x.isFinite = true) :
    ∃ y, Constant.DenotesOptional (restatedConstant places x) y ∧ ReadsAs places x y := by
  unfold restatedConstant
  split
  · next h => exact ⟨0, zero_stands, readsAs_of_isZero places h zero_stands⟩
  · exact joined_denotes places hx

theorem restatedTerm_denotes {x : Binary64} (hx : x.isFinite = true) :
    ∃ y, Term.DenotesOptional (restatedTerm places x v) y ∧ ReadsAs places x y := by
  rcases restatedTerm_cases places x v with ⟨hterm, h⟩ | hterm <;> rw [hterm]
  · exact ⟨0, zero_stands, readsAs_of_isZero places h zero_stands⟩
  · obtain ⟨y, hy, hread⟩ := joined_denotes places hx
    exact ⟨y, Constant.inFront_denotes.mpr hy, hread⟩

theorem writesLinear_restated (ha : a.isFinite = true) (hb : b.isFinite = true)
    (hc : c.isFinite = true) (hv : 'a' ≤ v ∧ v ≤ 'z') :
    ∃ a' b' c', WritesLinear (normalize (Step.linearText places a b c v)) ⟨.linear a' b' c', v⟩ ∧
      ReadsAs places a a' ∧ ReadsAs places b b' ∧ ReadsAs places c c' := by
  obtain ⟨a', ha', hra⟩ := shown_denotes places ha
  obtain ⟨b', hb', hrb⟩ := restatedConstant_denotes places hb
  obtain ⟨c', hc', hrc⟩ := shown_denotes places hc
  have hvalid : (restatedLinear places a b c v).Valid Char.isDigit :=
    ⟨⟨Constant.inFront_valid (shown_valid places a), hv⟩, restatedConstant_follows places,
      shown_valid places c⟩
  have htext : (normalize (Step.linearText places a b c v)).toList =
      (restatedLinear places a b c v).text := by
    rw [normalize, String.toList_ofList, canonical_linearText places ha hb hc hv]
  exact ⟨a', b', c', ⟨_, a', b', c', htext, hvalid, Term.starAfterNumeral_of_star_eq_false rfl,
    Constant.inFront_denotes.mpr ha', hb', hc', rfl⟩, hra, hrb, hrc⟩

theorem writesQuadratic_restated (ha : a.isFinite = true) (hb : b.isFinite = true)
    (hc : c.isFinite = true) (hv : 'a' ≤ v ∧ v ≤ 'z') :
    ∃ a' b' c', WritesQuadratic (normalize (Step.quadraticText places a b c v))
        ⟨.quadratic a' b' c', v⟩ ∧
      ReadsAs places a a' ∧ ReadsAs places b b' ∧ ReadsAs places c c' := by
  obtain ⟨a', ha', hra⟩ := shown_denotes places ha
  obtain ⟨b', hb', hrb⟩ := restatedTerm_denotes places (v := v) hb
  obtain ⟨c', hc', hrc⟩ := restatedConstant_denotes places hc
  -- The term in the middle has the letter of the square, and no star.
  have hmiddle : ∀ t ∈ restatedTerm places b v,
      t.Follows Char.isDigit ∧ t.letter = v ∧ t.StarAfterNumeral := by
    rcases restatedTerm_cases places b v with ⟨hterm, -⟩ | hterm <;> rw [hterm]
    · simp
    · rintro t ⟨⟩
      exact ⟨joined_term_follows places b hv, rfl, Term.starAfterNumeral_of_star_eq_false rfl⟩
  have hvalid : (restatedQuadratic places a b c v).Valid Char.isDigit :=
    ⟨⟨Constant.inFront_valid (shown_valid places a), hv⟩, fun t ht => (hmiddle t ht).1,
      restatedConstant_follows places, .inl rfl⟩
  have htext : (normalize (Step.quadraticText places a b c v)).toList =
      (restatedQuadratic places a b c v).text := by
    rw [normalize, String.toList_ofList, canonical_quadraticText places ha hb hc hv]
  exact ⟨a', b', c', ⟨_, a', b', c', htext, hvalid, fun t ht => (hmiddle t ht).2.1,
    Term.starAfterNumeral_of_star_eq_false rfl, fun t ht => (hmiddle t ht).2.2,
    Constant.inFront_denotes.mpr ha', hb', hc', rfl⟩, hra, hrb, hrc⟩

theorem writesRow_restated {r : Row} (ha : r.a.isFinite = true) (hb : r.b.isFinite = true)
    (hc : r.c.isFinite = true) :
    ∃ r', WritesRow (normalize (Step.rowText places r)) r' ∧
      ReadsAs places r.a r'.a ∧ ReadsAs places r.b r'.b ∧ ReadsAs places r.c r'.c := by
  obtain ⟨a', ha', hra⟩ := shown_denotes places ha
  obtain ⟨b', hb', hrb⟩ := joined_denotes places hb
  obtain ⟨c', hc', hrc⟩ := shown_denotes places hc
  have hvalid : (restatedRow places r).Valid Char.isDigit :=
    ⟨⟨Constant.inFront_valid (shown_valid places r.a), (by decide : 'a' ≤ 'x' ∧ 'x' ≤ 'z')⟩, rfl,
      joined_term_follows places r.b (by decide), rfl, shown_valid places r.c⟩
  have htext : (normalize (Step.rowText places r)).toList = (restatedRow places r).text := by
    rw [normalize, String.toList_ofList, canonical_rowText places ha hb hc]
  exact ⟨⟨a', b', c'⟩, ⟨_, htext, hvalid, Term.starAfterNumeral_of_star_eq_false rfl,
    Term.starAfterNumeral_of_star_eq_false rfl, Constant.inFront_denotes.mpr ha',
    Constant.inFront_denotes.mpr hb', hc'⟩, hra, hrb, hrc⟩

end
/-! ## The head of a derivation -/

/-- The steps begin with one restated equation, or with two, which are the canonical texts. -/
inductive Restates : List String → String × Option String → Prop where
  | one (body : String) (rest : List String) :
      Restates (("Equation: " ++ body) :: rest) (normalize body, none)
  | two (first second : String) (rest : List String) :
      Restates (("Equation 1: " ++ first) :: ("Equation 2: " ++ second) :: rest)
        (normalize first, some (normalize second))

section
variable (places : Nat) (a b c : Binary64) (v : Char)

theorem Derivation.linear_lines : ∃ rest,
    (linear a b c v).lines places = ("Equation: " ++ Step.linearText places a b c v) :: rest := by
  unfold linear finishing notFinite degenerate lines
  simp only []
  split_ifs <;> exact ⟨_, rfl⟩

theorem Derivation.quadratic_lines : ∃ rest, (quadratic a b c v).lines places =
    ("Equation: " ++ Step.quadraticText places a b c v) :: rest := by
  unfold quadratic finishing notFinite degenerate lines
  simp only []
  split_ifs <;> exact ⟨_, rfl⟩

theorem Derivation.system_lines (first second : Row) : ∃ rest, (system first second).lines places =
    ("Equation 1: " ++ Step.rowText places first) ::
      ("Equation 2: " ++ Step.rowText places second) :: rest := by
  unfold system finishing notFinite degenerate lines
  simp only []
  split_ifs <;> exact ⟨_, rfl⟩

end

open Display in
/-- **The restated equation is the equation as it is shown.** Its canonical form is taken as an
equation of the same family in the same unknown; each coefficient read back is the number that the
shown coefficient writes. -/
theorem derive_restates {texts : String × Option String} {family : Family} {e : Equation}
    (h : Worked.classified texts family = .ok e) (places : Nat) :
    ∃ restated e', Restates (e.derive.lines places) restated ∧
      Worked.classified restated e.family = .ok e' ∧ e'.family = e.family ∧
        e'.unknown = e.unknown ∧
          List.Forall₂ (ReadsAs places) e.coefficients.toList e'.coefficients.toList := by
  have htaken := Worked.taken_of_classified h
  generalize e.family = f at htaken ⊢
  cases htaken with
  | @linear a b c v ha hb hc hv =>
    obtain ⟨a', b', c', hwrites, hra, hrb, hrc⟩ := writesLinear_restated places ha hb hc hv
    obtain ⟨rest, hlines⟩ := Derivation.linear_lines places a b c v
    have hok := classifyLinear_eq_ok_iff.mpr hwrites
    simp only [Equation.derive]
    rw [hlines]
    exact ⟨_, _, .one _ _, hok, rfl, rfl, .cons hra (.cons hrb (.cons hrc .nil))⟩
  | @quadratic a b c v ha hb hc hv =>
    obtain ⟨a', b', c', hwrites, hra, hrb, hrc⟩ :=
      writesQuadratic_restated places ha hb hc hv
    obtain ⟨rest, hlines⟩ := Derivation.quadratic_lines places a b c v
    have hok := classifyQuadratic_eq_ok_iff.mpr hwrites
    simp only [Equation.derive]
    rw [hlines]
    exact ⟨_, _, .one _ _, hok, rfl, rfl, .cons hra (.cons hrb (.cons hrc .nil))⟩
  | @system r s hr hs =>
    obtain ⟨r', hwrites, hra, hrb, hrc⟩ := writesRow_restated places hr.1 hr.2.1 hr.2.2
    obtain ⟨s', hwrites', hsa, hsb, hsc⟩ := writesRow_restated places hs.1 hs.2.1 hs.2.2
    obtain ⟨rest, hlines⟩ := Derivation.system_lines places r s
    have hok := classifySystem_eq_ok_iff.mpr ⟨r', s', hwrites, hwrites', rfl⟩
    simp only [Equation.derive]
    rw [hlines]
    exact ⟨_, _, .two _ _ _, hok, rfl, rfl,
      .cons hra (.cons hrb (.cons hrc (.cons hsa (.cons hsb (.cons hsc .nil)))))⟩

open Display in
/-- A coefficient that rounds to one and a term that rounds to nothing from below are read back as
they are shown. -/
theorem derive_restates_parabola :
    ∃ e, Worked.classified ("0.9999x^2-0.0001x-12.5=0", none) .quadratic = .ok e ∧
      ∃ restated e', Restates (e.derive.lines 3) restated ∧
        Worked.classified restated e.family = .ok e' ∧ e'.family = e.family ∧
          e'.unknown = e.unknown ∧
            List.Forall₂ (ReadsAs 3) e.coefficients.toList e'.coefficients.toList := by
  have htaken : (Worked.classified ("0.9999x^2-0.0001x-12.5=0", none) .quadratic).isOk = true := by
    decide +kernel
  obtain ⟨e, he⟩ := Worked.exists_of_isOk htaken
  exact ⟨e, he, derive_restates he 3⟩

end WorkedEquations
