/-
The numbers that coefficients stand for, and which coefficient of a form is
the first without one.

`Constant.Denotes` and `Multiplier.Denotes` say what number is written, as an
exact quotient of digits and a power of ten, correctly rounded
(`Binary64.IsRounding`); nothing in them reads. A numeral has no number if a
digit is not an ASCII one, and none either from the overflow threshold on.

Reading gives the number, if there is one (`Constant.read_eq_ok_iff`,
`Multiplier.read_eq_ok_iff`). Reading three coefficients in order stops at the
first without a number, and complains of its size exactly if that one has ASCII
digits only (`readThree_eq_tooLarge_iff`).
-/
import WorkedEquations.Equation.Classify
import WorkedEquations.Proofs.Binary64.Nearest
import WorkedEquations.Proofs.Equation.Forms

namespace WorkedEquations

/-! ## Outcomes in sequence -/

section
variable {ε α β γ δ : Type} {x : Except ε α} {f : α → Except ε β}

theorem bind_eq_ok_iff {b : β} : (x >>= f) = .ok b ↔ ∃ a, x = .ok a ∧ f a = .ok b := by
  cases x with
  | error e => simp [bind, Except.bind]
  | ok a => simp [bind, Except.bind]

theorem bind_eq_error_iff {e : ε} :
    (x >>= f) = .error e ↔ x = .error e ∨ ∃ a, x = .ok a ∧ f a = .error e := by
  cases x with
  | error e => simp [bind, Except.bind]
  | ok a => simp [bind, Except.bind]

theorem exists_ok_of_any {p : α → Prop} [DecidablePred p] (h : x.toOption.any (p ·) = true) :
    ∃ a, x = .ok a ∧ p a := by
  cases x with
  | error e => cases h
  | ok a => exact ⟨a, rfl, of_decide_eq_true h⟩

theorem bindThree_eq_ok_iff {x : Except ε α} {y : Except ε β} {z : Except ε γ} {g : α → β → γ → δ}
    {r : δ} : (do let a ← x; let b ← y; let c ← z; return g a b c) = .ok r ↔
      ∃ a b c, x = .ok a ∧ y = .ok b ∧ z = .ok c ∧ r = g a b c := by
  simp only [bind_eq_ok_iff, pure, Except.pure, Except.ok.injEq]
  constructor
  · intro ⟨a, ha, b, hb, c, hc, hr⟩
    exact ⟨a, b, c, ha, hb, hc, hr.symm⟩
  · intro ⟨a, b, c, ha, hb, hc, hr⟩
    exact ⟨a, ha, b, hb, c, hc, hr.symm⟩

end

/-! ## What a coefficient stands for -/

/-- The number that ASCII digits write, the last ones behind the point. -/
def Numeral.value (n : Numeral) : ℚ :=
  (Nat.ofDigitChars 10 n.digits 0 : ℚ) / 10 ^ (n.fraction.getD []).length

theorem Numeral.value_nonneg (n : Numeral) : 0 ≤ n.value := by
  unfold value
  positivity

/-- `x` is the finite number that a sign and a magnitude stand for, correctly rounded. -/
def Binary64.Stands (x : Binary64) (sign : Option Sign) (q : ℚ) : Prop :=
  x.isFinite = true ∧ x.IsRounding (sign = some .minus) q

/-- `x` is the number of the constant. -/
def Constant.Denotes (c : Constant) (x : Binary64) : Prop := x.Stands c.sign c.numeral.value

/-- `x` is the number of what stands before a variable: one or minus one without a numeral. -/
def Multiplier.Denotes (m : Multiplier) (x : Binary64) : Prop :=
  x.Stands m.sign ((m.numeral.map Numeral.value).getD 1)

/-- `x` is the number of a constant that may be left out: then it is zero. -/
def Constant.DenotesOptional : Option Constant → Binary64 → Prop
  | some c, x => c.Denotes x
  | none, x => x.Stands none 0

/-- `x` is the coefficient of a term that may be left out: then it is zero. -/
def Term.DenotesOptional : Option Term → Binary64 → Prop
  | some t, x => t.multiplier.Denotes x
  | none, x => x.Stands none 0

/-- All digits are ASCII ones. -/
def Constant.Ascii (c : Constant) : Prop := ∀ d ∈ c.numeral.digits, d.isDigit = true

/-- The constant is written with ASCII digits and stands for a finite number. -/
def Constant.Readable (c : Constant) : Prop := c.Ascii ∧ c.numeral.value < Magnitude.overflow

/-- The constant is written with ASCII digits and rounds past the largest finite number. -/
def Constant.TooLarge (c : Constant) : Prop := c.Ascii ∧ Magnitude.overflow ≤ c.numeral.value

/-- Of the constants in order, the first that stands for no finite number is too large, and is
written as the token. -/
inductive FirstTooLarge : List Constant → List Char → Prop where
  | here {c : Constant} {cs : List Constant} : c.TooLarge → FirstTooLarge (c :: cs) c.text
  | later {c : Constant} {cs : List Constant} {token : List Char} :
      c.Readable → FirstTooLarge cs token → FirstTooLarge (c :: cs) token

theorem firstTooLarge_nil {token : List Char} : ¬ FirstTooLarge [] token := nofun

theorem firstTooLarge_cons_iff {c : Constant} {cs : List Constant} {token : List Char} :
    FirstTooLarge (c :: cs) token ↔
      c.TooLarge ∧ token = c.text ∨ c.Readable ∧ FirstTooLarge cs token := by
  constructor
  · intro h
    cases h with
    | here h => exact .inl ⟨h, rfl⟩
    | later h hs => exact .inr ⟨h, hs⟩
  · rintro (⟨h, rfl⟩ | ⟨h, hs⟩)
    · exact .here h
    · exact .later h hs

/-! ## Numbers of coefficients -/

namespace Binary64

theorem IsRounding.isFinite_iff {negative : Bool} {q : ℚ} {x : Binary64} (h : x.IsRounding negative q) :
    x.isFinite = true ↔ q < Magnitude.overflow := by
  cases h with
  | finite hm => simpa [isFinite] using hm.in_range
  | infinite h => simpa [isFinite] using h

theorem Stands.unique {sign : Option Sign} {q : ℚ} {x y : Binary64} (hx : x.Stands sign q)
    (hy : y.Stands sign q) : x = y := hx.2.unique hy.2

/-- A number rounded once stands for what it was rounded from, as long as it is in range. -/
theorem IsRounding.stands {sign : Option Sign} {q : ℚ} {x : Binary64}
    (h : x.IsRounding (sign = some .minus) q) (hq : q < Magnitude.overflow) : x.Stands sign q :=
  ⟨h.isFinite_iff.mpr hq, h⟩

end Binary64

theorem Binary64.digitsValue_isRounding (negative : Bool) (n : Numeral) :
    (ofDecimal negative (digitsValue n.digits) (-((n.fraction.getD []).length : Int))).IsRounding
      negative n.value := by
  have h := ofDecimal_isRounding negative (digitsValue n.digits) (-((n.fraction.getD []).length : Int))
  rwa [zpow_neg, zpow_natCast, ← div_eq_mul_inv] at h

theorem Constant.read_cases (c : Constant) :
    (¬ c.Ascii ∧ c.read = .error .foreignDigit) ∨
      (c.TooLarge ∧ c.read = .error (.tooLarge c.text)) ∨
        (c.Readable ∧ ∃ x, c.Denotes x ∧ c.read = .ok x) := by
  have hround := Binary64.digitsValue_isRounding (c.sign = some .minus) c.numeral
  by_cases hascii : c.Ascii
  · have hall : c.numeral.digits.all Char.isDigit = true := List.all_eq_true.mpr hascii
    simp only [read, Numeral.read, hall, if_true]
    rcases lt_or_ge c.numeral.value Magnitude.overflow with hq | hq
    · have hfinite := hround.isFinite_iff.mpr hq
      rw [if_pos hfinite]
      exact .inr (.inr ⟨⟨hascii, hq⟩, _, ⟨hfinite, hround⟩, rfl⟩)
    · have hfinite := mt hround.isFinite_iff.mp (not_lt_of_ge hq)
      rw [if_neg hfinite]
      exact .inr (.inl ⟨⟨hascii, hq⟩, rfl⟩)
  · have hall : ¬ c.numeral.digits.all Char.isDigit = true := mt List.all_eq_true.mp hascii
    simp only [read, Numeral.read, hall]
    exact .inl ⟨hascii, rfl⟩

theorem Constant.Denotes.lt_overflow {c : Constant} {x : Binary64} (h : c.Denotes x) :
    c.numeral.value < Magnitude.overflow := h.2.isFinite_iff.mp h.1

theorem Constant.read_eq_ok_iff {c : Constant} {x : Binary64} :
    c.read = .ok x ↔ c.Ascii ∧ c.Denotes x := by
  rcases c.read_cases with ⟨hascii, h⟩ | ⟨hlarge, h⟩ | ⟨hread, y, hy, h⟩ <;> rw [h]
  · simp [hascii]
  · simp only [reduceCtorEq, false_iff, not_and]
    exact fun _ hx => not_lt_of_ge hlarge.2 hx.lt_overflow
  · rw [Except.ok.injEq]
    exact ⟨fun he => he ▸ ⟨hread.1, hy⟩, fun hx => hy.unique hx.2⟩

theorem Constant.read_eq_tooLarge_iff {c : Constant} {token : List Char} :
    c.read = .error (.tooLarge token) ↔ c.TooLarge ∧ token = c.text := by
  rcases c.read_cases with ⟨hascii, h⟩ | ⟨hlarge, h⟩ | ⟨hread, y, hy, h⟩ <;> rw [h]
  · simp [TooLarge, hascii]
  · simp [hlarge, eq_comm]
  · simp only [reduceCtorEq, false_iff, not_and]
    exact fun hlarge => absurd hread.2 (not_lt_of_ge hlarge.2)

theorem Constant.readable_iff {c : Constant} : c.Readable ↔ ∃ x, c.read = .ok x := by
  rcases c.read_cases with ⟨hascii, h⟩ | ⟨hlarge, h⟩ | ⟨hread, y, hy, h⟩ <;> rw [h]
  · simp [Readable, hascii]
  · simp only [reduceCtorEq, exists_false, iff_false]
    exact fun hread => absurd hread.2 (not_lt_of_ge hlarge.2)
  · simp [hread]

/-! ## Coefficients that may be left out -/

/-- Reading a constant, or taking a number where there is none. -/
def readOr (missing : Binary64) : Option Constant → Except Unreadable Binary64
  | some c => c.read
  | none => .ok missing

theorem readOr_eq_ok_iff {missing x : Binary64} {o : Option Constant} : readOr missing o = .ok x ↔
    (∀ c ∈ o, c.Ascii) ∧ ((∃ c ∈ o, c.Denotes x) ∨ o = none ∧ x = missing) := by
  cases o with
  | none => simp [readOr, eq_comm]
  | some c => simp [readOr, Constant.read_eq_ok_iff]

/-- One more coefficient in front of those still to be read. -/
theorem firstTooLarge_toList_append (missing : Binary64) {o : Option Constant} {cs : List Constant}
    {token : List Char} : FirstTooLarge (o.toList ++ cs) token ↔
      readOr missing o = .error (.tooLarge token) ∨
        ∃ x, readOr missing o = .ok x ∧ FirstTooLarge cs token := by
  cases o with
  | none => simp [readOr]
  | some c =>
    simp only [Option.toList_some, List.singleton_append, firstTooLarge_cons_iff, readOr,
      Constant.read_eq_tooLarge_iff, Constant.readable_iff, exists_and_right]

/-- Three coefficients read in order, some of which may be left out. -/
theorem readThree_eq_tooLarge_iff {α : Type} {m₁ m₂ m₃ : Binary64} {o₁ o₂ o₃ : Option Constant}
    {g : Binary64 → Binary64 → Binary64 → α} {token : List Char} :
    (do let a ← readOr m₁ o₁; let b ← readOr m₂ o₂; let c ← readOr m₃ o₃; return g a b c) =
        .error (.tooLarge token) ↔
      FirstTooLarge (o₁.toList ++ (o₂.toList ++ o₃.toList)) token := by
  have hlast : FirstTooLarge o₃.toList token ↔ readOr m₃ o₃ = .error (.tooLarge token) := by
    rw [← List.append_nil o₃.toList, firstTooLarge_toList_append m₃]
    simp [firstTooLarge_nil]
  rw [firstTooLarge_toList_append m₁]
  simp only [firstTooLarge_toList_append m₂, hlast, bind_eq_error_iff, pure, Except.pure,
    reduceCtorEq, and_false, exists_false, or_false]

/-- The constant a multiplier is, unless its numeral is left out. -/
def Multiplier.explicit (m : Multiplier) : Option Constant := m.numeral.map (⟨m.sign, ·⟩)

theorem Multiplier.read_eq (m : Multiplier) :
    m.read = readOr (if m.sign = some .minus then -1 else 1) m.explicit := by
  unfold read explicit
  cases m.numeral <;> rfl

theorem Constant.readOptional_eq (o : Option Constant) : readOptional o = readOr 0 o := by
  cases o <;> rfl

theorem Term.readOptional_eq (o : Option Term) :
    ∃ missing, readOptional o = readOr missing (o.bind (·.multiplier.explicit)) := by
  cases o with
  | none => exact ⟨0, rfl⟩
  | some t => exact ⟨_, t.multiplier.read_eq⟩

theorem signedOne_stands (sign : Option Sign) :
    (if sign = some .minus then -1 else 1 : Binary64).Stands sign 1 := by
  have hone := Binary64.one_isRounding
  by_cases h : sign = some .minus
  · rw [if_pos h]
    exact Binary64.IsRounding.stands (by simpa [h] using hone.neg) Magnitude.one_lt_overflow
  · rw [if_neg h]
    exact Binary64.IsRounding.stands (by simpa [h] using hone) Magnitude.one_lt_overflow

theorem zero_stands : (0 : Binary64).Stands none 0 :=
  Binary64.IsRounding.stands Binary64.zero_isRounding (zero_lt_one.trans Magnitude.one_lt_overflow)

theorem Multiplier.read_eq_ok_iff {m : Multiplier} {x : Binary64} :
    m.read = .ok x ↔ (∀ c ∈ m.explicit, c.Ascii) ∧ m.Denotes x := by
  obtain ⟨sign, numeral⟩ := m
  rw [read_eq, readOr_eq_ok_iff]
  refine and_congr_right fun _ => ?_
  cases numeral with
  | some n => simp [explicit, Denotes, Constant.Denotes]
  | none =>
    have hone := signedOne_stands sign
    simp only [explicit, Option.map_none, Option.not_mem_none, false_and, exists_false, true_and,
      false_or]
    exact ⟨fun he => he ▸ hone, fun hx => Binary64.Stands.unique hx hone⟩

/-- Where nothing is written, the number is zero. -/
theorem zero_eq_iff_stands {x : Binary64} : (.ok 0 : Except Unreadable Binary64) = .ok x ↔ x.Stands none 0 := by
  rw [Except.ok.injEq]
  exact ⟨fun he => he ▸ zero_stands, fun hx => zero_stands.unique hx⟩

theorem Constant.readOptional_eq_ok_iff {o : Option Constant} {x : Binary64} :
    readOptional o = .ok x ↔ (∀ c ∈ o, c.Ascii) ∧ DenotesOptional o x := by
  cases o with
  | some c => simp [readOptional, DenotesOptional, read_eq_ok_iff]
  | none => simpa [readOptional, DenotesOptional] using zero_eq_iff_stands

theorem Term.readOptional_eq_ok_iff {o : Option Term} {x : Binary64} : readOptional o = .ok x ↔
    (∀ t ∈ o, ∀ c ∈ t.multiplier.explicit, c.Ascii) ∧ DenotesOptional o x := by
  cases o with
  | some t => simp [readOptional, DenotesOptional, Multiplier.read_eq_ok_iff]
  | none => simpa [readOptional, DenotesOptional] using zero_eq_iff_stands

end WorkedEquations
