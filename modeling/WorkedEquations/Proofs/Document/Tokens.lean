/-
What a token is taken for.

`Taken token v` says it without the reader: a whole number of 64 bits if the
token is digits, perhaps behind a sign; else a number; else a truth value; else
the text itself.

`integerOf?_eq_some_iff` tells which tokens are whole numbers, and every token
is taken for one value (`ofToken_eq_iff`).
-/
import WorkedEquations.Document.Value
import WorkedEquations.Proofs.Text.Runs

namespace WorkedEquations
namespace Document
namespace Value

/-! ## Whole numbers -/

/-- One or more digits. -/
def IsDigits (cs : List Char) : Prop := cs ≠ [] ∧ ∀ c ∈ cs, c.isDigit = true

/-- Digits, perhaps behind a sign, and the whole number they write. -/
inductive WritesInteger : List Char → Int → Prop where
  | bare {digits : List Char} : IsDigits digits → WritesInteger digits (Binary64.digitsValue digits)
  | plus {digits : List Char} :
      IsDigits digits → WritesInteger ('+' :: digits) (Binary64.digitsValue digits)
  | minus {digits : List Char} :
      IsDigits digits → WritesInteger ('-' :: digits) (-Binary64.digitsValue digits)

/-- The whole number fits in 64 bits. -/
def Fits (n : Int) : Prop := -0x8000000000000000 ≤ n ∧ n < 0x8000000000000000

theorem writesInteger_iff {cs : List Char} {n : Int} :
    WritesInteger cs n ↔ IsDigits (Binary64.splitSign cs).2 ∧
      n = if (Binary64.splitSign cs).1 then -(Binary64.digitsValue (Binary64.splitSign cs).2 : Int)
        else Binary64.digitsValue (Binary64.splitSign cs).2 := by
  have hsign : ∀ c rest, IsDigits (c :: rest) → c ≠ '-' ∧ c ≠ '+' := by
    intro c rest h
    have hc := h.2 c List.mem_cons_self
    constructor <;> rintro rfl <;> exact absurd hc (by decide)
  constructor
  · intro h
    cases h with
    | bare h =>
      obtain ⟨c, rest, rfl⟩ := List.exists_cons_of_ne_nil h.1
      obtain ⟨hminus, hplus⟩ := hsign c rest h
      have hsplit : Binary64.splitSign (c :: rest) = (false, c :: rest) := by
        unfold Binary64.splitSign
        split
        · simp_all
        · simp_all
        · rfl
      rw [hsplit]
      exact ⟨h, rfl⟩
    | plus h => exact ⟨h, rfl⟩
    | minus h => exact ⟨h, rfl⟩
  · rintro ⟨h, rfl⟩
    revert h
    unfold Binary64.splitSign
    split
    · exact .minus
    · exact .plus
    · exact .bare

theorem integerOf?_eq_some_iff {cs : List Char} {n : Int} :
    integerOf? cs = some n ↔ WritesInteger cs n ∧ Fits n := by
  rw [writesInteger_iff, integerOf?, Fits]
  generalize Binary64.splitSign cs = signed
  obtain ⟨negative, digits⟩ := signed
  have hdigits : (digits.isEmpty || !digits.all Char.isDigit) = true ↔ ¬ IsDigits digits := by
    rw [IsDigits, not_and_or, not_not, Bool.or_eq_true, List.isEmpty_iff, Bool.not_eq_true',
      ← Bool.not_eq_true, List.all_eq_true]
  dsimp only
  by_cases h : IsDigits digits
  · rw [if_neg (by rw [hdigits]; exact not_not.mpr h)]
    simp only [h, true_and, Option.ite_none_right_eq_some, Option.some.injEq]
    constructor
    · rintro ⟨hfits, rfl⟩
      exact ⟨rfl, hfits⟩
    · rintro ⟨rfl, hfits⟩
      exact ⟨hfits, rfl⟩
  · rw [if_pos (hdigits.mpr h)]
    simp [h]

/-! ## Values -/

/-- The token writes a whole number of 64 bits. -/
def IsInteger (token : List Char) : Prop := ∃ n, WritesInteger token n ∧ Fits n

/-- The word for a truth value. -/
def truthWord (b : Bool) : List Char := (if b then "true" else "false").toList

/-- What a token is taken for, the first that fits. -/
inductive Taken (token : List Char) : Value → Prop where
  | integer {n : Int} : WritesInteger token n → Fits n → Taken token (.integer n)
  | float {x : Binary64} :
      ¬ IsInteger token → Binary64.ofText? token = some x → Taken token (.float x)
  | boolean {b : Bool} :
      ¬ IsInteger token → Binary64.ofText? token = none → token = truthWord b →
      Taken token (.boolean b)
  | text :
      ¬ IsInteger token → Binary64.ofText? token = none → (∀ b, token ≠ truthWord b) →
      Taken token (.text (String.ofList token))

theorem integerOf?_eq_none_iff {cs : List Char} : integerOf? cs = none ↔ ¬ IsInteger cs := by
  rw [Option.eq_none_iff_forall_ne_some]
  simp only [IsInteger, not_exists, ← integerOf?_eq_some_iff, ne_eq]

theorem booleanOf?_eq_some_iff {cs : List Char} {b : Bool} :
    booleanOf? cs = some b ↔ cs = truthWord b := by
  have htrue : truthWord true = ['t', 'r', 'u', 'e'] := by decide
  have hfalse : truthWord false = ['f', 'a', 'l', 's', 'e'] := by decide
  rw [booleanOf?]
  cases b with
  | false =>
    rw [hfalse]
    split
    next h => simp [h]
    · simp
  | true =>
    rw [htrue]
    split <;> simp [*]

theorem booleanOf?_eq_none_iff {cs : List Char} : booleanOf? cs = none ↔ ∀ b, cs ≠ truthWord b := by
  rw [Option.eq_none_iff_forall_ne_some]
  simp only [ne_eq, booleanOf?_eq_some_iff]

/-- **Every token is taken for one value.** White space at its ends does not count. -/
theorem ofToken_eq_iff {token : List Char} {v : Value} :
    ofToken token = v ↔ Taken (Text.trim token) v := by
  rw [ofToken]
  generalize Text.trim token = cs
  constructor
  · rintro rfl
    split
    next n hn => exact .integer (integerOf?_eq_some_iff.mp hn).1 (integerOf?_eq_some_iff.mp hn).2
    next hinteger =>
      rw [integerOf?_eq_none_iff] at hinteger
      split
      next x hx => exact .float hinteger hx
      next hfloat =>
        split
        next b hb => exact .boolean hinteger hfloat (booleanOf?_eq_some_iff.mp hb)
        next hb => exact .text hinteger hfloat (booleanOf?_eq_none_iff.mp hb)
  · intro h
    cases h with
    | integer hn hfits => rw [integerOf?_eq_some_iff.mpr ⟨hn, hfits⟩]
    | float hinteger hx =>
      rw [integerOf?_eq_none_iff.mpr hinteger]
      simp only [hx]
    | boolean hinteger hfloat hb =>
      rw [integerOf?_eq_none_iff.mpr hinteger]
      simp only [hfloat, booleanOf?_eq_some_iff.mpr hb]
    | text hinteger hfloat hb =>
      rw [integerOf?_eq_none_iff.mpr hinteger]
      simp only [hfloat, booleanOf?_eq_none_iff.mpr hb]

end Value
end Document
end WorkedEquations
