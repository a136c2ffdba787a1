/-
The fields of settings, and the tokens that record them.

A document knows whole numbers, numbers, truth values and words, and tells them
apart by how they look. A field comes back through that all the same. A number
that is not the negative zero comes back as a number or, if its plain text is
whole, as a whole number (`toFloat?_ofToken`), and so do the other fields
(`natOf?_count`, `toBoolean?_flag`, `lower_word`). Every field of valid settings
can be written as a token (`isToken_token`).
-/
import WorkedEquations.Settings.OfDocument
import WorkedEquations.Proofs.Decimal.ReadBack
import WorkedEquations.Proofs.Document.Reading

namespace WorkedEquations

/-! ## Numbers among the values -/

namespace Document
namespace Value

/-- Digits behind a sign are read as the whole number they write. -/
theorem eq_ofDecimal_of_digits (sign : Option Sign) {digits : List Char} {x : Binary64}
    (hdigits : IsDigits digits) (hx : Binary64.ofText? (Sign.text sign ++ digits) = some x) :
    x = Binary64.ofDecimal (sign = some .minus) (Binary64.digitsValue digits) 0 := by
  have hvalid : (Constant.mk sign ⟨digits, none⟩).Valid Char.isDigit := by
    rw [Constant.Valid, Numeral.Valid, Numeral.digits, Option.getD_none, List.append_nil]
    exact hdigits
  have htext : (Constant.mk sign ⟨digits, none⟩).text = Sign.text sign ++ digits := by
    simp [Constant.text, Numeral.text]
  have h := Binary64.ofText?_text hvalid
  rw [htext, hx] at h
  simpa [Numeral.digits] using h

/-- **A whole number that is read as a number is that number,** unless it is the negative zero. -/
theorem ofInt_eq_of_writesInteger {cs : List Char} {n : Int} {x : Binary64} (hn : WritesInteger cs n)
    (hx : Binary64.ofText? cs = some x) (hzero : x ≠ .signedZero true) : Binary64.ofInt n = x := by
  have hround : ∀ (negative : Bool) (digits : Nat),
      (Binary64.ofDecimal negative digits 0).IsRounding negative digits := by
    intro negative digits
    have h := Binary64.ofDecimal_isRounding negative digits 0
    rwa [zpow_zero, mul_one] at h
  have hint := Binary64.ofInt_isRounding n
  cases hn with
  | bare hdigits =>
    have h : x = Binary64.ofDecimal false (Binary64.digitsValue cs) 0 :=
      eq_ofDecimal_of_digits none hdigits hx
    rw [Int.natAbs_natCast, decide_eq_false (by omega)] at hint
    rw [h, hint.unique (hround false _)]
  | @plus digits hdigits =>
    have h : x = Binary64.ofDecimal false (Binary64.digitsValue digits) 0 :=
      eq_ofDecimal_of_digits (some .plus) hdigits hx
    rw [Int.natAbs_natCast, decide_eq_false (by omega)] at hint
    rw [h, hint.unique (hround false _)]
  | @minus digits hdigits =>
    have h : x = Binary64.ofDecimal true (Binary64.digitsValue digits) 0 :=
      eq_ofDecimal_of_digits (some .minus) hdigits hx
    have hne : Binary64.digitsValue digits ≠ 0 := by
      intro h0
      rw [h0] at h
      exact hzero h
    rw [Int.natAbs_neg, Int.natAbs_natCast, decide_eq_true (by omega)] at hint
    rw [h, hint.unique (hround true _)]

/-- **A number comes back from a token** that is read as it. -/
theorem toFloat?_ofToken {token : List Char} {x : Binary64}
    (hx : Binary64.ofText? (Text.trim token) = some x) (hzero : x ≠ .signedZero true) :
    (ofToken token).toFloat? = some x := by
  generalize hv : ofToken token = v
  rw [ofToken_eq_iff] at hv
  cases hv with
  | integer hn _ => rw [toFloat?, ofInt_eq_of_writesInteger hn hx hzero]
  | float _ hy => rw [toFloat?, ← hx, hy]
  | boolean _ hnone _ => rw [hx] at hnone; cases hnone
  | text _ hnone _ => rw [hx] at hnone; cases hnone

end Value
end Document

/-! ## Fields -/

namespace Settings

open Document (isTokenChar continuesName)

/-- What a field of settings holds. -/
inductive FieldValue where
  | word (s : String)
  | flag (b : Bool)
  | count (n : Nat)
  | number (x : Binary64)
deriving DecidableEq

/-- A field, and the title and the key it is recorded under. -/
structure Field where
  title : String
  key : String
  get : Settings → FieldValue

/-- The fields of settings. -/
def fields : List Field :=
  [⟨"solver", "loglevel", fun c => .word c.logLevel⟩,
    ⟨"solver", "log_to_file", fun c => .flag c.logToFile⟩,
    ⟨"solver", "precision", fun c => .count c.precision⟩,
    ⟨"plot", "half_width", fun c => .number c.window.halfWidth⟩,
    ⟨"plot", "step", fun c => .number c.window.step⟩,
    ⟨"history", "capacity", fun c => .count c.historyCapacity⟩]

/-- The token that records what a field holds; numbers in full, with the fewest digits. -/
def FieldValue.token : FieldValue → String
  | word s => s
  | flag b => if b then "true" else "false"
  | count n => toString n
  | number x => x.plainText

/-- What a document can hold: a known level, a whole number of 64 bits, a number other than the
negative zero. -/
def FieldValue.Recordable : FieldValue → Prop
  | word s => s ∈ Log.levelNames
  | flag _ => True
  | count n => n < 2 ^ 63
  | number x => x ≠ .signedZero true

/-! ## Tokens -/

/-- A character of the tokens of fields. -/
def isPlain (c : Char) : Bool := continuesName c || c == '.' || c == '-'

theorem isToken_of_plain {token : List Char} (hne : token ≠ [])
    (h : ∀ c ∈ token, isPlain c = true) : Document.IsToken token ∧ Text.trim token = token := by
  have hchar : ∀ c, isPlain c = true → isTokenChar c = true ∧ Text.isBlank c = false := by
    intro c hc
    simp only [isPlain, Bool.or_eq_true, beq_iff_eq] at hc
    obtain (hc | rfl) | rfl := hc
    · exact ⟨Document.isTokenChar_of_continuesName hc, Document.not_isBlank_of_continuesName hc⟩
    · decide
    · decide
  refine ⟨⟨hne, fun c hc => (hchar c (h c hc)).1⟩, Text.trim_eq_self ⟨?_, ?_⟩⟩
  · exact fun c hc => (hchar c (h c (List.mem_of_mem_head? hc))).2
  · exact fun c hc => (hchar c (h c (List.mem_of_mem_getLast? hc))).2

theorem isPlain_of_isDigit {c : Char} (h : c.isDigit = true) : isPlain c = true := by
  simp [isPlain, continuesName, Char.isAlphanum, h]

theorem plain_numeral {n : Numeral} (hn : n.Valid Char.isDigit) : ∀ c ∈ n.text, isPlain c = true := by
  intro c hc
  obtain ⟨whole, fraction⟩ := n
  have hdigit : ∀ d, d ∈ whole ∨ d ∈ fraction.getD [] → isPlain d = true := fun d hd =>
    isPlain_of_isDigit (hn.2 d (List.mem_append.mpr hd))
  rcases List.mem_append.mp hc with hc | hc
  · exact hdigit c (.inl hc)
  · cases fraction with
    | none => cases hc
    | some fraction =>
      rcases List.mem_cons.mp hc with rfl | hc
      · decide
      · exact hdigit c (.inr hc)

theorem plain_plainText (x : Binary64) :
    x.plainText.toList ≠ [] ∧ ∀ c ∈ x.plainText.toList, isPlain c = true := by
  cases x with
  | nan => exact ⟨by decide, List.all_eq_true.mp (by decide)⟩
  | infinite s =>
    have hall : ∀ s, (Binary64.infinite s).plainText.toList ≠ [] ∧
        (Binary64.infinite s).plainText.toList.all isPlain = true := by decide
    exact ⟨(hall s).1, List.all_eq_true.mp (hall s).2⟩
  | finite s m =>
    have hvalid : (Binary64.plainConstant s m).numeral.Valid Char.isDigit := Decimal.numeral_valid _
    rw [← Binary64.plainConstant_text, Constant.text]
    refine ⟨fun hnil => hvalid.text_ne_nil (List.append_eq_nil_iff.mp hnil).2, fun c hc => ?_⟩
    rcases List.mem_append.mp hc with hc | hc
    · cases s with
      | false => cases hc
      | true =>
        have hminus : c = '-' := by simpa [Binary64.plainConstant, Sign.text, Sign.toChar] using hc
        rw [hminus]
        decide
    · exact plain_numeral hvalid c hc

theorem toList_count (n : Nat) : (FieldValue.count n).token.toList = Nat.toDigits 10 n := by
  rw [FieldValue.token, Nat.toString_eq_ofList_toDigits, String.toList_ofList]

theorem plain_token {v : FieldValue} (h : v.Recordable) :
    v.token.toList ≠ [] ∧ ∀ c ∈ v.token.toList, isPlain c = true := by
  cases v with
  | word s =>
    have hall : ∀ s ∈ Log.levelNames, s.toList ≠ [] ∧ s.toList.all isPlain = true := by decide
    exact ⟨(hall s h).1, List.all_eq_true.mp (hall s h).2⟩
  | flag b =>
    have hall : ∀ b, (FieldValue.flag b).token.toList ≠ [] ∧
        (FieldValue.flag b).token.toList.all isPlain = true := by decide
    exact ⟨(hall b).1, List.all_eq_true.mp (hall b).2⟩
  | count n =>
    rw [toList_count]
    exact ⟨Nat.toDigits_ne_nil, fun c hc =>
      isPlain_of_isDigit (Nat.isDigit_of_mem_toDigits (by decide) (by decide) hc)⟩
  | number x => exact plain_plainText x

/-- **Every field can be written** as a token. -/
theorem isToken_token {v : FieldValue} (h : v.Recordable) :
    Document.IsToken v.token.toList ∧ Text.trim v.token.toList = v.token.toList :=
  isToken_of_plain (plain_token h).1 (plain_token h).2

/-! ## What comes back -/

theorem lower_word {s : String} (h : s ∈ Log.levelNames) :
    Text.lower (Document.Value.ofToken s.toList).display = s := by
  have hall : ∀ s ∈ Log.levelNames, Text.lower (Document.Value.ofToken s.toList).display = s := by
    decide
  exact hall s h

theorem toBoolean?_flag (b : Bool) :
    (Document.Value.ofToken (FieldValue.flag b).token.toList).toBoolean? = some b := by
  cases b <;> decide

theorem natOf?_count {n : Nat} (h : n < 2 ^ 63) :
    natOf? (Document.Value.ofToken (FieldValue.count n).token.toList) = some n := by
  have hdigits : Document.Value.IsDigits (Nat.toDigits 10 n) :=
    ⟨Nat.toDigits_ne_nil, fun c hc => Nat.isDigit_of_mem_toDigits (by decide) (by decide) hc⟩
  have hvalue : Binary64.digitsValue (Nat.toDigits 10 n) = n := Nat.ofDigitChars_ten_toDigits
  have hwrites := Document.Value.WritesInteger.bare hdigits
  rw [hvalue] at hwrites
  have htaken : Document.Value.ofToken (FieldValue.count n).token.toList = .integer n := by
    rw [Document.Value.ofToken_eq_iff, (isToken_token (v := .count n) h).2, toList_count]
    exact .integer hwrites ⟨by omega, by omega⟩
  rw [htaken]
  rfl

theorem toFloat?_number {x : Binary64} (h : x ≠ .signedZero true) :
    (Document.Value.ofToken (FieldValue.number x).token.toList).toFloat? = some x := by
  refine Document.Value.toFloat?_ofToken ?_ h
  rw [(isToken_token (v := .number x) h).2]
  exact Binary64.ofText?_plainText x

end Settings
end WorkedEquations
