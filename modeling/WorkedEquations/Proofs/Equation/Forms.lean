/-
The written forms of equations, and that finding the form of a text is the
inverse of writing it.

`Valid digit` says of a numeral, a coefficient, a term or a form that it is
well formed with digits of a class: a numeral has a digit, a term a letter
from a to z, what follows a term a sign. The finders take the decimal digits
of every script, so for them the class is `Text.isDecimalDigit`.

A form is found exactly if it is valid and the text is what it writes
(`LinearForm.ofText?_eq_some_iff`, and the same for the other forms). So a text
has at most one form.

No choice of a finder is ever undone: after a coefficient comes a star, a
letter or an equals sign, and none of them continues it (`EndsCoefficient`).
-/
import WorkedEquations.Equation.Form
import WorkedEquations.Proofs.Text.Runs

namespace WorkedEquations

/-! ## Decimal digits -/

theorem Text.isDecimalDigit_of_isDigit {c : Char} (h : c.isDigit = true) : isDecimalDigit c = true := by
  refine inRanges_eq_true_iff.mpr ⟨(0x30, 0x39), by decide, ?_⟩
  simp only [Char.isDigit, Bool.and_eq_true, decide_eq_true_eq, ge_iff_le, UInt32.le_iff_toNat_le] at h
  exact h

theorem Text.isDecimalDigit_bounds {c : Char} (h : isDecimalDigit c = true) :
    0x30 ≤ c.toNat ∧ c.toNat ≤ 0x39 ∨ 0x660 ≤ c.toNat := by
  have bounds : ∀ r ∈ decimalDigitRanges, r = (0x30, 0x39) ∨ 0x660 ≤ r.1 := by decide
  obtain ⟨r, hr, hlow, hhigh⟩ := inRanges_eq_true_iff.mp h
  rcases bounds r hr with rfl | h
  · exact .inl ⟨hlow, hhigh⟩
  · exact .inr (Nat.le_trans h hlow)

/-! ## Well-formed pieces -/

/-- Some digit, and digits of the class only. -/
def Numeral.Valid (digit : Char → Bool) (n : Numeral) : Prop :=
  n.digits ≠ [] ∧ ∀ c ∈ n.digits, digit c = true

def Multiplier.Valid (digit : Char → Bool) (m : Multiplier) : Prop := ∀ n ∈ m.numeral, n.Valid digit

def Constant.Valid (digit : Char → Bool) (c : Constant) : Prop := c.numeral.Valid digit

structure Term.Valid (digit : Char → Bool) (t : Term) : Prop where
  multiplier : t.multiplier.Valid digit
  letter : 'a' ≤ t.letter ∧ t.letter ≤ 'z'

/-- A term that follows another: it has a sign. -/
structure Term.Follows (digit : Char → Bool) (t : Term) : Prop extends t.Valid digit where
  sign : t.multiplier.sign.isSome

/-- A constant that follows a term: it has a sign. -/
structure Constant.Follows (digit : Char → Bool) (c : Constant) : Prop where
  valid : c.Valid digit
  sign : c.sign.isSome

/-- What may come after a coefficient: no digit, point or sign. -/
def EndsCoefficient (rest : List Char) : Prop :=
  ∀ c ∈ rest.head?, Text.isDecimalDigit c = false ∧ c ≠ '.' ∧ Sign.ofChar? c = none

theorem EndsCoefficient.nil : EndsCoefficient [] := by simp [EndsCoefficient]

theorem endsCoefficient_equals (rest : List Char) : EndsCoefficient ('=' :: rest) := by
  intro c hc
  cases hc
  decide

theorem endsCoefficient_star (rest : List Char) : EndsCoefficient ('*' :: rest) := by
  intro c hc
  cases hc
  decide

theorem endsCoefficient_letter {letter : Char} (h : 'a' ≤ letter ∧ letter ≤ 'z') (rest : List Char) :
    EndsCoefficient (letter :: rest) := by
  intro c hc
  cases hc
  have h₁ : 0x61 ≤ letter.toNat := h.1
  have h₂ : letter.toNat ≤ 0x7A := h.2
  refine ⟨?_, ?_, ?_⟩
  · cases hd : Text.isDecimalDigit letter with
    | false => rfl
    | true => have := Text.isDecimalDigit_bounds hd; omega
  · rintro rfl; revert h₁; decide
  · have hp : letter ≠ '+' := by rintro rfl; revert h₁; decide
    have hm : letter ≠ '-' := by rintro rfl; revert h₁; decide
    simp only [Sign.ofChar?, hp, hm, if_false]

/-! ## Coefficients -/

theorem Sign.ofChar?_toChar (sign : Sign) : Sign.ofChar? sign.toChar = some sign := by
  cases sign <;> rfl

theorem Sign.toChar_of_ofChar? {c : Char} {sign : Sign} (h : Sign.ofChar? c = some sign) :
    c = sign.toChar := by
  unfold ofChar? at h
  split at h
  · next hc => cases h; exact hc
  split at h
  · next hc => cases h; exact hc
  · cases h

theorem Sign.scan_eq {cs rest : List Char} {sign : Option Sign} (h : Sign.scan cs = (sign, rest)) :
    cs = Sign.text sign ++ rest := by
  cases cs with
  | nil => cases h; rfl
  | cons c cs =>
    simp only [scan] at h
    split at h
    · next sign' hc =>
      cases h
      rw [toChar_of_ofChar? hc]
      rfl
    · cases h; rfl

theorem Sign.scan_text {rest : List Char} (sign : Option Sign)
    (h : sign = none → ∀ c ∈ rest.head?, Sign.ofChar? c = none) :
    Sign.scan (Sign.text sign ++ rest) = (sign, rest) := by
  cases sign with
  | some sign => simp [text, scan, ofChar?_toChar]
  | none =>
    cases rest with
    | nil => rfl
    | cons c rest => simp [text, scan, h rfl c rfl]

/-- What a numeral scanner gives is a numeral of decimal digits, if anything, with the rest. -/
theorem Numeral.scan_eq {cs rest : List Char} {n : Option Numeral} (h : Numeral.scan cs = (n, rest)) :
    cs = (n.map Numeral.text).getD [] ++ rest ∧ ∀ m ∈ n, m.Valid Text.isDecimalDigit := by
  have hall : ∀ (ds : List Char), ∀ c ∈ ds.takeWhile Text.isDecimalDigit, Text.isDecimalDigit c = true :=
    fun ds => List.all_eq_true.mp List.all_takeWhile
  have split₁ := List.takeWhile_append_dropWhile (p := Text.isDecimalDigit) (l := cs)
  simp only [scan] at h
  split at h
  · next rest' hdrop =>
    have split₂ := List.takeWhile_append_dropWhile (p := Text.isDecimalDigit) (l := rest')
    split at h
    · cases h; simp
    · next hne =>
      cases h
      refine ⟨?_, ?_⟩
      · simp only [Option.map_some, Option.getD_some, text, List.append_assoc, List.cons_append, split₂]
        rw [← hdrop, split₁]
      · rintro m ⟨⟩
        simp only [Valid, digits, Option.getD_some, ne_eq, List.append_eq_nil_iff, List.mem_append]
        refine ⟨by simpa using hne, fun c hc => hc.elim (hall _ c) (hall _ c)⟩
  · split at h
    · cases h; simp
    · next hne =>
      cases h
      refine ⟨?_, ?_⟩
      · simp only [Option.map_some, Option.getD_some, text, List.append_nil, split₁]
      · rintro m ⟨⟩
        simp only [Valid, digits, Option.getD_none, List.append_nil]
        exact ⟨by simpa using hne, hall _⟩

theorem Numeral.scan_none {rest : List Char} (hr : EndsCoefficient rest) :
    Numeral.scan rest = (none, rest) := by
  cases rest with
  | nil => rfl
  | cons c rest =>
    obtain ⟨hdigit, hpoint, -⟩ := hr c rfl
    simp only [scan, List.takeWhile_cons, List.dropWhile_cons, hdigit, Bool.false_eq_true, if_false]
    split
    · next h => cases h; exact absurd rfl hpoint
    · rfl

theorem Numeral.scan_text {n : Numeral} {rest : List Char} (hn : n.Valid Text.isDecimalDigit)
    (hr : EndsCoefficient rest) : Numeral.scan (n.text ++ rest) = (some n, rest) := by
  obtain ⟨whole, fraction⟩ := n
  obtain ⟨hne, hall⟩ := hn
  have hrest : ∀ c ∈ rest.head?, Text.isDecimalDigit c = false := fun c hc => (hr c hc).1
  simp only [digits, List.mem_append] at hne hall
  cases fraction with
  | none =>
    simp only [Option.getD_none, List.append_nil] at hne
    obtain ⟨htake, hdrop⟩ := takeWhile_dropWhile_append whole rest
      (fun c hc => hall c (.inl hc)) hrest
    simp only [text, List.append_nil, scan, htake, hdrop]
    split
    · next tail => exact absurd rfl (hr '.' rfl).2.1
    · simp [hne]
  | some fraction =>
    simp only [Option.getD_some] at hne hall
    obtain ⟨htake, hdrop⟩ := takeWhile_dropWhile_append whole ('.' :: (fraction ++ rest))
      (fun c hc => hall c (.inl hc)) (by rintro c ⟨⟩; decide)
    obtain ⟨htake', hdrop'⟩ := takeWhile_dropWhile_append fraction rest
      (fun c hc => hall c (.inr hc)) hrest
    simp only [text, List.append_assoc, List.cons_append, scan, htake, hdrop, htake', hdrop']
    split
    · next h => simp_all
    · rfl

theorem Multiplier.scan_eq {cs rest : List Char} {m : Multiplier} (h : Multiplier.scan cs = (m, rest)) :
    cs = m.text ++ rest ∧ m.Valid Text.isDecimalDigit := by
  simp only [scan] at h
  rcases hs : Sign.scan cs with ⟨sign, rest₁⟩
  rcases hn : Numeral.scan rest₁ with ⟨n, rest₂⟩
  simp only [hs, hn] at h
  cases h
  obtain ⟨hrest, hvalid⟩ := Numeral.scan_eq hn
  exact ⟨by rw [Sign.scan_eq hs, hrest, text, List.append_assoc], hvalid⟩

theorem Numeral.head?_text {n : Numeral} (hn : n.Valid Text.isDecimalDigit) (rest : List Char) :
    ∀ c ∈ (n.text ++ rest).head?, Sign.ofChar? c = none := by
  have digit_no_sign : ∀ c, Text.isDecimalDigit c = true → Sign.ofChar? c = none := fun c hc => by
    have hp : c ≠ '+' := by rintro rfl; revert hc; decide
    have hm : c ≠ '-' := by rintro rfl; revert hc; decide
    simp only [Sign.ofChar?, hp, hm, if_false]
  obtain ⟨whole, fraction⟩ := n
  obtain ⟨hne, hall⟩ := hn
  rcases whole with _ | ⟨c, whole⟩
  · rcases fraction with _ | fraction
    · exact absurd rfl hne
    · rintro c ⟨⟩; decide
  · rintro _ ⟨⟩
    exact digit_no_sign c (hall c (by simp [digits]))

theorem Multiplier.scan_text {m : Multiplier} {rest : List Char} (hm : m.Valid Text.isDecimalDigit)
    (hr : EndsCoefficient rest) : Multiplier.scan (m.text ++ rest) = (m, rest) := by
  obtain ⟨sign, numeral⟩ := m
  cases numeral with
  | none =>
    simp only [text, scan, Option.map_none, Option.getD_none, List.append_nil]
    rw [Sign.scan_text sign fun _ c hc => (hr c hc).2.2]
    simp only [Numeral.scan_none hr]
  | some n =>
    have hn : n.Valid Text.isDecimalDigit := hm n rfl
    simp only [text, scan, Option.map_some, Option.getD_some, List.append_assoc]
    rw [Sign.scan_text sign fun _ => n.head?_text hn rest]
    simp only [Numeral.scan_text hn hr]

theorem Constant.scan_eq {cs rest : List Char} {c : Constant} (h : Constant.scan cs = some (c, rest)) :
    cs = c.text ++ rest ∧ c.Valid Text.isDecimalDigit := by
  simp only [scan] at h
  split at h
  · next sign n _ hm =>
    cases h
    obtain ⟨hcs, hvalid⟩ := Multiplier.scan_eq hm
    exact ⟨hcs, hvalid n rfl⟩
  · cases h

theorem Constant.scan_text {c : Constant} {rest : List Char} (hc : c.Valid Text.isDecimalDigit)
    (hr : EndsCoefficient rest) : Constant.scan (c.text ++ rest) = some (c, rest) := by
  have hm := Multiplier.scan_text (m := ⟨c.sign, some c.numeral⟩) (by rintro n ⟨⟩; exact hc) hr
  simp only [Multiplier.text, Option.map_some, Option.getD_some] at hm
  simp only [scan, text, hm]

theorem Constant.scan_none {rest : List Char} (hr : EndsCoefficient rest) :
    Constant.scan rest = none := by
  have hm := Multiplier.scan_text (m := ⟨none, none⟩) (by rintro n ⟨⟩) hr
  simp only [Multiplier.text, Sign.text, Option.toList_none, List.map_nil, Option.map_none,
    Option.getD_none, List.nil_append] at hm
  simp only [scan, hm]

/-! ## Terms -/

theorem scanStar_eq {cs rest : List Char} {star : Bool} (h : scanStar cs = (star, rest)) :
    cs = starText star ++ rest := by
  unfold scanStar at h
  split at h <;> cases h <;> rfl

theorem isUnknownLetter_iff {c : Char} : isUnknownLetter c = true ↔ 'a' ≤ c ∧ c ≤ 'z' := by
  change (decide ('a' ≤ c) && decide (c ≤ 'z')) = true ↔ _
  rw [Bool.and_eq_true, decide_eq_true_iff, decide_eq_true_iff]

/-- **A term is found exactly where it is written**, whatever comes after its letter. -/
theorem Term.scan_eq_some_iff {cs rest : List Char} {t : Term} :
    Term.scan cs = some (t, rest) ↔ t.Valid Text.isDecimalDigit ∧ cs = t.text ++ rest := by
  constructor
  · intro h
    simp only [scan] at h
    rcases hm : Multiplier.scan cs with ⟨m, rest₁⟩
    rcases hs : scanStar rest₁ with ⟨star, rest₂⟩
    simp only [hm, hs] at h
    split at h
    · next letter rest₃ =>
      split at h
      · next hl =>
        cases h
        obtain ⟨hcs, hvalid⟩ := Multiplier.scan_eq hm
        refine ⟨⟨hvalid, isUnknownLetter_iff.mp hl⟩, ?_⟩
        rw [hcs, scanStar_eq hs]
        simp [text]
      · cases h
    · cases h
  · rintro ⟨⟨hm, hl⟩, rfl⟩
    obtain ⟨m, star, letter⟩ := t
    change 'a' ≤ letter ∧ letter ≤ 'z' at hl
    have hscan : scanStar (starText star ++ letter :: rest) = (star, letter :: rest) := by
      cases star with
      | true => rfl
      | false =>
        have : letter ≠ '*' := by rintro rfl; revert hl; decide
        simp only [starText, Bool.false_eq_true, if_false, List.nil_append]
        unfold scanStar
        split
        · next h => cases h; exact absurd rfl this
        · rfl
    have hends : EndsCoefficient (starText star ++ letter :: rest) := by
      cases star with
      | true => exact endsCoefficient_star _
      | false => exact endsCoefficient_letter hl rest
    simp only [scan, text, List.append_assoc, List.singleton_append,
      Multiplier.scan_text hm hends, hscan, isUnknownLetter_iff.mpr hl, if_true]

/-! ## What follows a term -/

theorem scanSignedConstant_eq {cs rest : List Char} {o : Option Constant}
    (h : scanSignedConstant cs = (o, rest)) :
    cs = (o.map Constant.text).getD [] ++ rest ∧ ∀ c ∈ o, c.Follows Text.isDecimalDigit := by
  simp only [scanSignedConstant] at h
  split at h
  · next sign n _ hc =>
    cases h
    obtain ⟨hcs, hvalid⟩ := Constant.scan_eq hc
    refine ⟨hcs, ?_⟩
    rintro c ⟨⟩
    exact ⟨hvalid, rfl⟩
  · cases h; simp

theorem scanSignedConstant_text {o : Option Constant} {rest : List Char}
    (ho : ∀ c ∈ o, c.Follows Text.isDecimalDigit) (hr : EndsCoefficient rest) :
    scanSignedConstant ((o.map Constant.text).getD [] ++ rest) = (o, rest) := by
  cases o with
  | none => simp [scanSignedConstant, Constant.scan_none hr]
  | some c =>
    obtain ⟨hvalid, hsign⟩ := ho c rfl
    obtain ⟨sign, hsign⟩ := Option.isSome_iff_exists.mp hsign
    obtain ⟨_, n⟩ := c
    cases hsign
    simp only [scanSignedConstant, Option.map_some, Option.getD_some, Constant.scan_text hvalid hr]

theorem scanSignedTerm_eq {cs rest : List Char} {o : Option Term} (h : scanSignedTerm cs = (o, rest)) :
    cs = (o.map Term.text).getD [] ++ rest ∧ ∀ t ∈ o, t.Follows Text.isDecimalDigit := by
  simp only [scanSignedTerm] at h
  split at h
  · next sign n star letter _ ht =>
    cases h
    obtain ⟨hvalid, hcs⟩ := Term.scan_eq_some_iff.mp ht
    refine ⟨hcs, ?_⟩
    rintro t ⟨⟩
    exact ⟨hvalid, rfl⟩
  · cases h; simp

theorem scanSignedTerm_some {t : Term} (ht : t.Follows Text.isDecimalDigit) (rest : List Char) :
    scanSignedTerm (t.text ++ rest) = (some t, rest) := by
  have hscan : Term.scan (t.text ++ rest) = some (t, rest) :=
    Term.scan_eq_some_iff.mpr ⟨ht.toValid, rfl⟩
  obtain ⟨sign, hsign⟩ := Option.isSome_iff_exists.mp ht.sign
  obtain ⟨⟨_, n⟩, star, letter⟩ := t
  cases hsign
  simp only [scanSignedTerm, hscan]

/-- A constant before an equals sign is no term: its letter is missing. -/
theorem scanSignedTerm_none {o : Option Constant} (ho : ∀ c ∈ o, c.Follows Text.isDecimalDigit)
    (rest : List Char) : scanSignedTerm ((o.map Constant.text).getD [] ++ '=' :: rest) =
      (none, (o.map Constant.text).getD [] ++ '=' :: rest) := by
  let m : Multiplier := ⟨o.bind (·.sign), o.map (·.numeral)⟩
  have htext : (o.map Constant.text).getD [] = m.text := by cases o <;> rfl
  have hm : m.Valid Text.isDecimalDigit := by
    cases o with
    | none => rintro n ⟨⟩
    | some c => rintro n ⟨⟩; exact (ho c rfl).valid
  have hscan : Term.scan (m.text ++ '=' :: rest) = none := by
    simp only [Term.scan, Multiplier.scan_text hm (endsCoefficient_equals rest)]
    rfl
  simp only [htext, scanSignedTerm, hscan]

theorem rightSide?_eq_some_iff {cs : List Char} {c : Constant} :
    rightSide? cs = some c ↔ c.Valid Text.isDecimalDigit ∧ cs = '=' :: c.text := by
  constructor
  · intro h
    unfold rightSide? at h
    split at h
    · next rest =>
      split at h
      · next hc =>
        cases h
        obtain ⟨hrest, hvalid⟩ := Constant.scan_eq hc
        exact ⟨hvalid, by rw [hrest, List.append_nil]⟩
      · cases h
    · cases h
  · rintro ⟨hc, rfl⟩
    have hscan := Constant.scan_text hc EndsCoefficient.nil
    rw [List.append_nil] at hscan
    simp only [rightSide?, hscan]

/-! ## The three forms -/

structure LinearForm.Valid (digit : Char → Bool) (f : LinearForm) : Prop where
  lead : f.lead.Valid digit
  constant : ∀ c ∈ f.constant, c.Follows digit
  right : f.right.Valid digit

/-- **Linear texts** have the form `[±a][*]v[±b]=[±]c`. -/
theorem LinearForm.ofText?_eq_some_iff {cs : List Char} {f : LinearForm} :
    LinearForm.ofText? cs = some f ↔ f.Valid Text.isDecimalDigit ∧ cs = f.text := by
  constructor
  · intro h
    simp only [ofText?] at h
    split at h
    · cases h
    next lead rest hlead =>
    rcases hc : scanSignedConstant rest with ⟨constant, rest'⟩
    simp only [hc, Option.map_eq_some_iff] at h
    obtain ⟨right, hright, rfl⟩ := h
    obtain ⟨hl, hcs⟩ := Term.scan_eq_some_iff.mp hlead
    obtain ⟨hrest, hconst⟩ := scanSignedConstant_eq hc
    obtain ⟨hr, hrest'⟩ := rightSide?_eq_some_iff.mp hright
    refine ⟨⟨hl, hconst, hr⟩, ?_⟩
    rw [hcs, hrest, hrest', text, List.append_assoc]
  · rintro ⟨⟨hl, hconst, hr⟩, rfl⟩
    have hlead : Term.scan f.text = some (f.lead, (f.constant.map Constant.text).getD [] ++ '=' :: f.right.text) :=
      Term.scan_eq_some_iff.mpr ⟨hl, by rw [text, List.append_assoc]⟩
    simp only [ofText?, hlead, scanSignedConstant_text hconst (endsCoefficient_equals _),
      rightSide?_eq_some_iff.mpr ⟨hr, rfl⟩, Option.map_some]

/-- A zero as right side, with a point and more zeros or without. -/
def IsZeroSide (side : List Char) : Prop :=
  side = ['=', '0'] ∨ ∃ zeros, (∀ c ∈ zeros, c = '0') ∧ side = '=' :: '0' :: '.' :: zeros

theorem isZeroSide_iff {side : List Char} : isZeroSide side = true ↔ IsZeroSide side := by
  constructor
  · intro h
    unfold isZeroSide at h
    split at h
    · exact .inl rfl
    · next zeros => exact .inr ⟨zeros, by simpa using h, rfl⟩
    · cases h
  · rintro (rfl | ⟨zeros, hz, rfl⟩)
    · rfl
    · simpa [isZeroSide] using hz

structure QuadraticForm.Valid (digit : Char → Bool) (f : QuadraticForm) : Prop where
  lead : f.lead.Valid digit
  middle : ∀ t ∈ f.middle, t.Follows digit
  constant : ∀ c ∈ f.constant, c.Follows digit
  side : IsZeroSide f.side

/-- **Quadratic texts** have the form `[±a][*]v^2[±b[*]w][±c]=0`. What follows the square is taken
as a term before it is taken as a constant; only a letter makes it a term. -/
theorem QuadraticForm.ofText?_eq_some_iff {cs : List Char} {f : QuadraticForm} :
    QuadraticForm.ofText? cs = some f ↔ f.Valid Text.isDecimalDigit ∧ cs = f.text := by
  constructor
  · intro h
    simp only [ofText?] at h
    split at h
    · next lead rest hlead =>
      rcases ht : scanSignedTerm rest with ⟨middle, rest'⟩
      rcases hc : scanSignedConstant rest' with ⟨constant, side⟩
      simp only [ht, hc] at h
      split at h
      · next hside =>
        cases h
        obtain ⟨hl, hcs⟩ := Term.scan_eq_some_iff.mp hlead
        obtain ⟨hrest, hmiddle⟩ := scanSignedTerm_eq ht
        obtain ⟨hrest', hconst⟩ := scanSignedConstant_eq hc
        refine ⟨⟨hl, hmiddle, hconst, isZeroSide_iff.mp hside⟩, ?_⟩
        rw [hcs, hrest, hrest']
        simp [text]
      · cases h
    · cases h
  · rintro ⟨⟨hl, hmiddle, hconst, hside⟩, rfl⟩
    obtain ⟨lead, middle, constant, side⟩ := f
    have hlead : Term.scan (text ⟨lead, middle, constant, side⟩) = some (lead, '^' :: '2' ::
        ((middle.map Term.text).getD [] ++ ((constant.map Constant.text).getD [] ++ side))) :=
      Term.scan_eq_some_iff.mpr ⟨hl, by simp [text]⟩
    obtain ⟨tail, rfl⟩ : ∃ tail, side = '=' :: tail := by
      rcases hside with rfl | ⟨zeros, -, rfl⟩ <;> exact ⟨_, rfl⟩
    have hterm : scanSignedTerm
        ((middle.map Term.text).getD [] ++ ((constant.map Constant.text).getD [] ++ '=' :: tail)) =
          (middle, (constant.map Constant.text).getD [] ++ '=' :: tail) := by
      cases middle with
      | none => exact scanSignedTerm_none hconst tail
      | some t => exact scanSignedTerm_some (hmiddle t rfl) _
    simp only [ofText?, hlead, hterm, scanSignedConstant_text hconst (endsCoefficient_equals tail),
      isZeroSide_iff.mpr hside, if_true]

structure RowForm.Valid (digit : Char → Bool) (f : RowForm) : Prop where
  x : f.x.Valid digit
  x_letter : f.x.letter = 'x'
  y : f.y.Follows digit
  y_letter : f.y.letter = 'y'
  right : f.right.Valid digit

/-- **Rows** have the form `[±a][*]x±[b][*]y=[±]c`. -/
theorem RowForm.ofText?_eq_some_iff {cs : List Char} {f : RowForm} :
    RowForm.ofText? cs = some f ↔ f.Valid Text.isDecimalDigit ∧ cs = f.text := by
  constructor
  · intro h
    simp only [ofText?] at h
    split at h
    · cases h
    next x rest hx =>
    split at h
    · cases h
    next y rest' hy =>
    split at h
    · next hletters =>
      simp only [Option.map_eq_some_iff] at h
      obtain ⟨right, hright, rfl⟩ := h
      obtain ⟨hxv, hcs⟩ := Term.scan_eq_some_iff.mp hx
      obtain ⟨hrest, hyf⟩ := scanSignedTerm_eq hy
      obtain ⟨hr, hrest'⟩ := rightSide?_eq_some_iff.mp hright
      refine ⟨⟨hxv, hletters.1, hyf y rfl, hletters.2, hr⟩, ?_⟩
      rw [hcs, hrest, hrest']
      simp [text]
    · cases h
  · rintro ⟨⟨hx, hxl, hy, hyl, hr⟩, rfl⟩
    have hlead : Term.scan f.text = some (f.x, f.y.text ++ '=' :: f.right.text) :=
      Term.scan_eq_some_iff.mpr ⟨hx, by rw [text, List.append_assoc]⟩
    simp only [ofText?, hlead, scanSignedTerm_some hy, hxl, hyl, and_self, if_true,
      rightSide?_eq_some_iff.mpr ⟨hr, rfl⟩, Option.map_some]

end WorkedEquations
