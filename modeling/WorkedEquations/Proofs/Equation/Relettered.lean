/-
Another letter for the unknown.

`Text.relettered v w` puts `w` for every `v` in a text. Coefficients, stars and
signs have no letters, however the unknown is called: an `e` is never part of a
numeral. So an accepted text with another letter is the text of the same form
with another letter, and the numbers that are read are the same.

The form comes first (`LinearForm.text_inLetter`,
`QuadraticForm.text_inLetter`), then what it writes (`WritesLinear.relettered`,
`WritesQuadratic.relettered`).
-/
import WorkedEquations.Proofs.Equation.Characters
import WorkedEquations.Proofs.Display.Shown

namespace WorkedEquations

/-! ## One letter for another -/

namespace Text

/-- The character, or `w` if it is `v`. -/
def exchange (v w c : Char) : Char := if c = v then w else c

/-- The text with `w` for every `v`. -/
def relettered (v w : Char) (text : String) : String :=
  String.ofList (text.toList.map (exchange v w))

variable {v w : Char}

@[simp] theorem exchange_self : exchange v w v = w := if_pos rfl

theorem map_exchange_of_not_mem {cs : List Char} (h : v ∉ cs) : cs.map (exchange v w) = cs := by
  refine (List.map_congr_left fun c hc => ?_).trans (List.map_id cs)
  exact if_neg fun hcv : c = v => h (hcv ▸ hc)

/-- Letters come after digits and signs. -/
theorem letter_not_mem {cs : List Char} (hv : 'a' ≤ v) (h : ∀ c ∈ cs, c.toNat < 0x61) : v ∉ cs := by
  intro hmem
  have hlow : 0x61 ≤ v.toNat := hv
  exact absurd (h v hmem) (by omega)

end Text

open Text

/-! ## Pieces without letters -/

theorem Sign.toNat_lt (sign : Option Sign) : ∀ c ∈ Sign.text sign, c.toNat < 0x3A := by
  rcases sign with _ | _ | _ <;> simp [Sign.text, Sign.toChar]

theorem Constant.Valid.toNat_lt {k : Constant} (hk : k.Valid Char.isDigit) :
    ∀ c ∈ k.text, c.toNat < 0x3A := by
  have hnumeral := Numeral.Valid.toNat_lt hk
  simp only [Constant.text, List.mem_append, or_imp, forall_and]
  exact ⟨Sign.toNat_lt k.sign, hnumeral⟩

theorem Multiplier.Valid.toNat_lt {m : Multiplier} (hm : m.Valid Char.isDigit) :
    ∀ c ∈ m.text, c.toNat < 0x3A := by
  obtain ⟨sign, numeral⟩ := m
  cases numeral with
  | none => simpa [Multiplier.text] using Sign.toNat_lt sign
  | some n => exact Constant.Valid.toNat_lt (k := ⟨sign, n⟩) (hm n rfl)

section
variable {v w : Char}

theorem map_exchange_constant {k : Constant} (hk : k.Valid Char.isDigit) (hv : 'a' ≤ v) :
    k.text.map (exchange v w) = k.text :=
  map_exchange_of_not_mem (letter_not_mem hv fun c hc => (hk.toNat_lt c hc).trans (by decide))

theorem map_exchange_optional_constant {o : Option Constant}
    (ho : ∀ k ∈ o, k.Follows Char.isDigit) (hv : 'a' ≤ v) :
    ((o.map Constant.text).getD []).map (exchange v w) = (o.map Constant.text).getD [] := by
  cases o with
  | none => rfl
  | some k => exact map_exchange_constant (ho k rfl).valid hv

/-- The right side of a quadratic equation has no letter. -/
theorem map_exchange_side {side : List Char} (h : IsZeroSide side) (hv : 'a' ≤ v) :
    side.map (exchange v w) = side := by
  refine map_exchange_of_not_mem (letter_not_mem hv ?_)
  rcases h with rfl | ⟨zeros, hzeros, rfl⟩
  · simp
  · simp only [List.mem_cons, or_imp, forall_and, forall_eq]
    refine ⟨by decide, by decide, by decide, fun c hc => ?_⟩
    rw [hzeros c hc]
    decide

end

/-! ## Forms with another letter -/

/-- The term with another letter. -/
def Term.inLetter (w : Char) (t : Term) : Term := { t with letter := w }

namespace Term
variable {t : Term} {w : Char}

theorem Valid.inLetter (ht : t.Valid Char.isDigit) (hw : 'a' ≤ w ∧ w ≤ 'z') :
    (t.inLetter w).Valid Char.isDigit := ⟨ht.multiplier, hw⟩

theorem text_inLetter (ht : t.Valid Char.isDigit) :
    (t.inLetter w).text = t.text.map (exchange t.letter w) := by
  have hmultiplier : t.multiplier.text.map (exchange t.letter w) = t.multiplier.text :=
    map_exchange_of_not_mem
      (letter_not_mem ht.letter.1 fun c hc => (ht.multiplier.toNat_lt c hc).trans (by decide))
  have hstar : (starText t.star).map (exchange t.letter w) = starText t.star := by
    refine map_exchange_of_not_mem (letter_not_mem ht.letter.1 ?_)
    cases t.star <;> simp [starText]
  simp only [text, Term.inLetter, List.map_append, hmultiplier, hstar, List.map_singleton,
    exchange_self]

end Term

/-- The form with another letter for its unknown. -/
def LinearForm.inLetter (w : Char) (f : LinearForm) : LinearForm :=
  { f with lead := f.lead.inLetter w }

theorem LinearForm.text_inLetter {f : LinearForm} (hf : f.Valid Char.isDigit) (w : Char) :
    (f.inLetter w).text = f.text.map (exchange f.lead.letter w) := by
  have hv := hf.lead.letter.1
  have hequals : exchange f.lead.letter w '=' = '=' := by
    refine if_neg fun h => ?_
    rw [← h] at hv
    revert hv
    decide
  simp only [text, LinearForm.inLetter, Term.text_inLetter hf.lead, List.map_append, List.map_cons,
    map_exchange_optional_constant hf.constant hv, map_exchange_constant hf.right hv, hequals]

/-- The form with another letter for its unknown, in the square and in the linear term. -/
def QuadraticForm.inLetter (w : Char) (f : QuadraticForm) : QuadraticForm :=
  { f with lead := f.lead.inLetter w, middle := f.middle.map (Term.inLetter w) }

theorem QuadraticForm.text_inLetter {f : QuadraticForm} (hf : f.Valid Char.isDigit)
    (hletters : f.SameLetter) (w : Char) :
    (f.inLetter w).text = f.text.map (exchange f.lead.letter w) := by
  have hv := hf.lead.letter.1
  have hsquare : ['^', '2'].map (exchange f.lead.letter w) = ['^', '2'] :=
    map_exchange_of_not_mem (letter_not_mem hv (by simp))
  -- The letter of the linear term is that of the square, so both are exchanged.
  have hmiddle : ((f.middle.map Term.text).getD []).map (exchange f.lead.letter w) =
      ((f.middle.map (Term.inLetter w)).map Term.text).getD [] := by
    cases hm : f.middle with
    | none => rfl
    | some t =>
      rw [← hletters t hm]
      exact (Term.text_inLetter (hf.middle t hm).toValid).symm
  simp only [text, QuadraticForm.inLetter, Term.text_inLetter hf.lead, List.map_append, hsquare,
    hmiddle, map_exchange_optional_constant hf.constant hv, map_exchange_side hf.side hv]

/-! ## Accepted texts with another letter -/

section
variable {text : String} {e : Equation} {w : Char}

/-- **A linear text with another letter** writes the same numbers. -/
theorem WritesLinear.relettered (h : WritesLinear text e) (hw : 'a' ≤ w ∧ w ≤ 'z') :
    WritesLinear (relettered e.unknown w text) ⟨e.coefficients, w⟩ := by
  obtain ⟨f, a, b, c, htext, hvalid, hstar, ha, hb, hc, rfl⟩ := h
  refine ⟨f.inLetter w, a, b, c, ?_, ⟨hvalid.lead.inLetter hw, hvalid.constant, hvalid.right⟩, hstar,
    ha, hb, hc, rfl⟩
  rw [Text.relettered, String.toList_ofList, htext, LinearForm.text_inLetter hvalid]

/-- **A quadratic text with another letter** writes the same numbers. -/
theorem WritesQuadratic.relettered (h : WritesQuadratic text e) (hw : 'a' ≤ w ∧ w ≤ 'z') :
    WritesQuadratic (relettered e.unknown w text) ⟨e.coefficients, w⟩ := by
  obtain ⟨f, a, b, c, htext, hvalid, hletters, hlead, hmiddle, ha, hb, hc, rfl⟩ := h
  have hterm : ∀ t ∈ (f.inLetter w).middle, ∃ u ∈ f.middle, t = u.inLetter w := by
    intro t ht
    obtain ⟨u, hu, rfl⟩ := Option.mem_map.mp ht
    exact ⟨u, hu, rfl⟩
  have hvalid' : (f.inLetter w).Valid Char.isDigit := by
    refine ⟨hvalid.lead.inLetter hw, fun t ht => ?_, hvalid.constant, hvalid.side⟩
    obtain ⟨u, hu, rfl⟩ := hterm t ht
    exact ⟨(hvalid.middle u hu).toValid.inLetter hw, (hvalid.middle u hu).sign⟩
  have hletters' : (f.inLetter w).SameLetter := by
    intro t ht
    obtain ⟨u, -, rfl⟩ := hterm t ht
    rfl
  have hmiddle' : ∀ t ∈ (f.inLetter w).middle, t.StarAfterNumeral := by
    intro t ht
    obtain ⟨u, hu, rfl⟩ := hterm t ht
    exact hmiddle u hu
  have hb' : Term.DenotesOptional (f.inLetter w).middle b := by
    unfold QuadraticForm.inLetter
    cases hm : f.middle with
    | none => rwa [hm] at hb
    | some t =>
      rw [hm] at hb
      exact hb
  refine ⟨f.inLetter w, a, b, c, ?_, hvalid', hletters', hlead, hmiddle', ha, hb', hc, rfl⟩
  rw [Text.relettered, String.toList_ofList, htext, QuadraticForm.text_inLetter hvalid hletters]

end

end WorkedEquations
