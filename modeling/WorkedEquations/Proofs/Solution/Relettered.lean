/-
The letter of the unknown does not matter.

Working an equation out looks at its coefficients only, and the letter is
carried along for the words of the steps (`Equation.derive_inUnknown`). An
answer has the letter in the names of its values and nowhere else, since a
shown number has no letters.

The answer comes first (`Display.answer_relettered`), then a raw text
(`normalize_relettered`), and last an accepted text with another letter, worked
out (`solveWith_relettered`).
-/
import WorkedEquations.Proofs.Equation.Relettered
import WorkedEquations.Proofs.Equation.Respelling
import WorkedEquations.Proofs.Solution.AnswerLine

namespace WorkedEquations

open Text (exchange exchange_self relettered)

/-! ## Derivations in another unknown -/

/-- The quantity, with another letter where it is the unknown. -/
def Quantity.inUnknown (w : Char) : Quantity → Quantity
  | unknown _ => unknown w
  | what => what

/-- The step with another letter for the unknown. -/
def Step.inUnknown (w : Char) : Step → Step
  | linearEquation a b c _ => linearEquation a b c w
  | reduces b c _ => reduces b c w
  | alwaysHolds b c _ => alwaysHolds b c w
  | neverHolds b c _ => neverHolds b c w
  | subtract a b c rest _ => subtract a b c rest w
  | add a b c rest _ => add a b c rest w
  | nothingToMove a rest _ => nothingToMove a rest w
  | divide a rest x _ => divide a rest x w
  | quadraticEquation a b c _ => quadraticEquation a b c w
  | negativeDiscriminant delta _ => negativeDiscriminant delta w
  | repeatedRoot minusB twoA x _ => repeatedRoot minusB twoA x w
  | branchRoot branch minusB root twoA x _ => branchRoot branch minusB root twoA x w
  | notFinite what => notFinite (what.inUnknown w)
  | step => step

namespace Derivation

/-- The derivation with another letter for the unknown: the solution has no letters. -/
def inUnknown (w : Char) (d : Derivation) : Derivation := ⟨d.solution, d.steps.map (·.inUnknown w)⟩

variable (w : Char)

theorem inUnknown_degenerate (kind : Degeneracy) (steps : List Step) :
    (degenerate kind steps).inUnknown w = degenerate kind (steps.map (·.inUnknown w)) := rfl

theorem inUnknown_notFinite (what : Quantity) (steps : List Step) : (notFinite what steps).inUnknown w =
    notFinite (what.inUnknown w) (steps.map (·.inUnknown w)) := by
  rw [notFinite, inUnknown_degenerate, List.map_append]
  rfl

theorem inUnknown_finishing (xs : List Binary64) (what : Quantity) (steps : List Step) :
    (finishing xs what steps).inUnknown w =
      finishing xs (what.inUnknown w) (steps.map (·.inUnknown w)) := by
  unfold finishing
  split
  · rfl
  · exact inUnknown_notFinite w what steps

variable (a b c : Binary64) (v : Char)

theorem moveConstant_inUnknown (rest : Binary64) :
    (moveConstant a b c rest v).inUnknown w = moveConstant a b c rest w := by
  unfold moveConstant
  split_ifs <;> rfl

theorem linear_inUnknown : (linear a b c v).inUnknown w = linear a b c w := by
  unfold linear
  simp only []
  split_ifs
  · rfl
  · rfl
  · rw [inUnknown_finishing, ← moveConstant_inUnknown w a b c v]
    rfl
  · exact inUnknown_notFinite w _ _

theorem quadratic_inUnknown : (quadratic a b c v).inUnknown w = quadratic a b c w := by
  unfold quadratic
  simp only []
  split_ifs
  · rfl
  · exact inUnknown_notFinite w _ _
  · rfl
  · exact inUnknown_finishing w _ _ _
  · exact inUnknown_finishing w _ _ _

theorem system_inUnknown (first second : Row) : (system first second).inUnknown w = system first second := by
  unfold system
  simp only []
  split_ifs
  · exact inUnknown_notFinite w _ _
  · rfl
  · exact inUnknown_finishing w _ _ _

end Derivation

/-- **Another letter changes the letter in the steps,** and nothing else. -/
theorem Equation.derive_inUnknown (k : Coefficients) (v w : Char) :
    (⟨k, w⟩ : Equation).derive = (⟨k, v⟩ : Equation).derive.inUnknown w := by
  cases k with
  | linear a b c => exact (Derivation.linear_inUnknown w a b c v).symm
  | quadratic a b c => exact (Derivation.quadratic_inUnknown w a b c v).symm
  | system first second => exact (Derivation.system_inUnknown w first second).symm

theorem Equation.solution_letter (k : Coefficients) (v w : Char) :
    (⟨k, w⟩ : Equation).derive.solution = (⟨k, v⟩ : Equation).derive.solution := by
  rw [derive_inUnknown k v w]
  rfl

/-- Neither the letter nor the number of places changes how many steps are shown. -/
theorem Equation.length_lines (k : Coefficients) (v w : Char) (p q : Nat) :
    ((⟨k, w⟩ : Equation).derive.lines q).length = ((⟨k, v⟩ : Equation).derive.lines p).length := by
  rw [derive_inUnknown k v w, Derivation.lines, Derivation.lines, Derivation.inUnknown]
  simp only [List.length_map]

/-! ## Texts put together -/

namespace Text
variable (v w : Char)

theorem relettered_append (s t : String) :
    relettered v w (s ++ t) = relettered v w s ++ relettered v w t := by
  simp only [relettered, String.toList_append, List.map_append, String.ofList_append]

theorem relettered_intercalate (separator : String) (texts : List String) :
    relettered v w (separator.intercalate texts) =
      (relettered v w separator).intercalate (texts.map (relettered v w)) := by
  induction texts with
  | nil => rfl
  | cons text texts ih =>
    rcases texts with _ | ⟨next, texts⟩
    · simp only [List.map_cons, List.map_nil, String.intercalate_singleton]
    · rw [String.intercalate_cons_cons, relettered_append, relettered_append, ih]
      simp only [List.map_cons, String.intercalate_cons_cons]

theorem relettered_of_not_mem {text : String} (h : v ∉ text.toList) : relettered v w text = text := by
  rw [relettered, map_exchange_of_not_mem h, String.ofList_toList]

end Text

/-! ## Answers -/

namespace Display
variable {family : Family} {v : Char} (w : Char) (places : Nat)

theorem relettered_number (hv : 'a' ≤ v) {x : Binary64} (hx : x.isFinite = true) :
    relettered v w (number places x) = number places x := by
  refine Text.relettered_of_not_mem v w (Text.letter_not_mem hv fun c hc => ?_)
  rw [toList_number places hx] at hc
  exact (Constant.Valid.toNat_lt (shown_valid places x) c hc).trans (by decide)

theorem subscriptDigit_ne (hv : v ≤ 'z') {c : Char} (hc : c.isDigit = true) : subscriptDigit c ≠ v := by
  have hsubscript : 0x7A < (subscriptDigit c).toNat :=
    of_isDigit (p := fun c => 0x7A < (subscriptDigit c).toNat) (by decide) hc
  have hletter : v.toNat ≤ 0x7A := hv
  rintro rfl
  omega

theorem subscripted_relettered (hv : v ≤ 'z') (index : Nat) :
    subscripted w index = relettered v w (subscripted v index) := by
  have hdigits : v ∉ (Nat.toDigits 10 index).map subscriptDigit := by
    rw [List.mem_map]
    rintro ⟨c, hc, rfl⟩
    exact subscriptDigit_ne hv (Nat.isDigit_of_mem_toDigits (by decide) (by decide) hc) rfl
  rw [subscripted, subscripted, relettered, String.toList_ofList, List.map_cons,
    Text.map_exchange_of_not_mem hdigits, exchange_self]

theorem labels_of_ne_system (hfamily : family ≠ .system) (count : Nat) : labels family v count =
    if count = 1 then [String.singleton v] else (List.range count).map fun i => subscripted v (i + 1) := by
  cases family with
  | system => exact absurd rfl hfamily
  | linear => rfl
  | quadratic => rfl

theorem length_labels (hfamily : family ≠ .system) (count : Nat) :
    (labels family v count).length = count := by
  rw [labels_of_ne_system hfamily]
  split
  next hone => rw [hone, List.length_singleton]
  next => rw [List.length_map, List.length_range]

theorem labels_relettered (hfamily : family ≠ .system) (hv : v ≤ 'z') (count : Nat) :
    labels family w count = (labels family v count).map (relettered v w) := by
  rw [labels_of_ne_system hfamily, labels_of_ne_system hfamily]
  split
  · rw [List.map_singleton, relettered, String.toList_singleton, List.map_singleton, exchange_self,
      String.singleton_eq_ofList]
  · rw [List.map_map]
    exact List.map_congr_left fun i _ => subscripted_relettered w hv (i + 1)

/-- Values with their names, as an answer has them. -/
def namedText (named : List (String × Binary64)) : String :=
  ", ".intercalate (named.map fun p => p.1 ++ " = " ++ number places p.2)

/-- The values with another letter in their names. -/
def renamed (v w : Char) (named : List (String × Binary64)) : List (String × Binary64) :=
  named.map fun p => (relettered v w p.1, p.2)

theorem relettered_namedText (hv : 'a' ≤ v ∧ v ≤ 'z') {named : List (String × Binary64)}
    (hfinite : ∀ p ∈ named, p.2.isFinite = true) :
    relettered v w (namedText places named) = namedText places (renamed v w named) := by
  have hplain : ∀ text ∈ [", ", " = "], relettered v w text = text := by
    intro text htext
    refine Text.relettered_of_not_mem v w (Text.letter_not_mem hv.1 ?_)
    simp only [List.mem_cons, List.not_mem_nil, or_false] at htext
    rcases htext with rfl | rfl <;> simp
  rw [namedText, Text.relettered_intercalate, hplain ", " (by simp), namedText, renamed, List.map_map,
    List.map_map]
  refine congrArg _ (List.map_congr_left fun p hp => ?_)
  simp only [Function.comp_apply, Text.relettered_append, hplain " = " (by simp),
    relettered_number w places hv.1 (hfinite p hp)]

/-- **An answer for another letter:** the names of its values have that letter, and the answer has
no other letters. -/
theorem answer_relettered (hfamily : family ≠ .system) (hv : 'a' ≤ v ∧ v ≤ 'z') {xs : List Binary64}
    (hfinite : ∀ x ∈ xs, x.isFinite = true) :
    ∃ named : List (String × Binary64), named.map Prod.fst = labels family v xs.length ∧
      named.map Prod.snd = xs ∧ answer places family v (.values xs) = namedText places named ∧
      answer places family w (.values xs) = namedText places (renamed v w named) ∧
      answer places family w (.values xs) = relettered v w (answer places family v (.values xs)) := by
  obtain ⟨named, hnames, rfl⟩ : ∃ named : List (String × Binary64),
      named.map Prod.fst = labels family v xs.length ∧ named.map Prod.snd = xs := by
    have hlength := length_labels (v := v) hfamily xs.length
    exact ⟨(labels family v xs.length).zip xs, List.map_fst_zip hlength.le, List.map_snd_zip hlength.ge⟩
  rw [List.length_map] at hnames
  have hrenamed : (renamed v w named).map Prod.fst = labels family w (renamed v w named).length := by
    rw [renamed, List.length_map, labels_relettered w hfamily hv.2, ← hnames, List.map_map, List.map_map]
    rfl
  have hvalues : (renamed v w named).map Prod.snd = named.map Prod.snd := by
    rw [renamed, List.map_map]
    rfl
  have hanswer : answer places family v (.values (named.map Prod.snd)) = namedText places named :=
    answer_eq hnames
  have hanswer' : answer places family w (.values (named.map Prod.snd)) =
      namedText places (renamed v w named) := by
    rw [← hvalues]
    exact answer_eq hrenamed
  refine ⟨named, by rw [List.length_map, hnames], rfl, hanswer, hanswer', ?_⟩
  rw [hanswer', hanswer, relettered_namedText w places hv]
  exact fun p hp => hfinite p.2 (List.mem_map_of_mem hp)

end Display

/-! ## Accepted texts in another letter -/

/-- The letter is written as it is: no other character of the text stands for it. -/
def Text.WritesAsIs (v : Char) (text : String) : Prop :=
  ∀ c ∈ text.toList, v ∈ normalChar c → c = v

/-- **A raw text with another letter** has the canonical form with that letter. -/
theorem normalize_relettered {v w : Char} (hv : 'a' ≤ v ∧ v ≤ 'z') (hw : 'a' ≤ w ∧ w ≤ 'z')
    {raw : String} (h : Text.WritesAsIs v raw) :
    normalize (relettered v w raw) = relettered v w (normalize raw) := by
  rw [normalize, normalize, relettered, relettered, String.toList_ofList, String.toList_ofList,
    List.flatMap_map, List.map_flatMap]
  refine congrArg _ (List.flatMap_congr fun c hc => ?_)
  by_cases hcv : c = v
  · rw [hcv, exchange_self, PlainChar.normalChar_eq (.inr (.inl hv)),
      PlainChar.normalChar_eq (.inr (.inl hw)), List.map_singleton, exchange_self]
  · rw [exchange, if_neg hcv, Text.map_exchange_of_not_mem fun hmem => hcv (h c hc hmem)]

theorem normalize_of_classify {text : String} {family : Family} {e : Equation}
    (hfamily : family ≠ .system) (h : classify text family = .ok e) : normalize text = text := by
  cases family with
  | system => exact absurd rfl hfamily
  | linear => exact normalize_eq_self (classifyLinear_eq_ok_iff.mp h).plain
  | quadratic => exact normalize_eq_self (classifyQuadratic_eq_ok_iff.mp h).plain

/-- **The text with another letter is taken** as the same numbers in that letter. -/
theorem classify_relettered {text : String} {family : Family} {e : Equation} {w : Char}
    (hfamily : family ≠ .system) (h : classify text family = .ok e) (hw : 'a' ≤ w ∧ w ≤ 'z') :
    classify (relettered e.unknown w text) family = .ok ⟨e.coefficients, w⟩ := by
  cases family with
  | system => exact absurd rfl hfamily
  | linear => exact classifyLinear_eq_ok_iff.mpr ((classifyLinear_eq_ok_iff.mp h).relettered hw)
  | quadratic => exact classifyQuadratic_eq_ok_iff.mpr ((classifyQuadratic_eq_ok_iff.mp h).relettered hw)

theorem Equation.Taken.unknown {family : Family} {e : Equation} (h : e.Taken family) :
    'a' ≤ e.unknown ∧ e.unknown ≤ 'z' := by
  cases h with
  | linear _ _ _ hv => exact hv
  | quadratic _ _ _ hv => exact hv
  | system =>
    change 'a' ≤ 'x' ∧ 'x' ≤ 'z'
    decide

namespace Worked

/-- `b` is `a` in the unknown `w`: all is alike but the letter, and of the answer the letter in the
names of the values. -/
structure AlikeIn (w : Char) (a b : Worked) : Prop where
  family : b.family = a.family
  unknown : b.unknown = w
  equation : b.equation = relettered a.unknown w a.equation
  solution : b.solution = a.solution
  plot : b.plot = a.plot
  steps : b.steps.length = a.steps.length
  message (kind : Degeneracy) : a.solution = .degenerate kind →
    ∀ places, a.answer places = kind.message ∧ b.answer places = kind.message
  values (xs : List Binary64) : a.solution = .values xs → ∀ places,
    b.answer places = relettered a.unknown w (a.answer places) ∧
    ∃ named : List (String × Binary64), named.map Prod.fst = Display.labels a.family a.unknown xs.length ∧
      named.map Prod.snd = xs ∧ a.answer places = Display.namedText places named ∧
      b.answer places = Display.namedText places (Display.renamed a.unknown w named)

theorem alikeIn_ofEquation (settings : Settings) (text : String) {family : Family} {e : Equation}
    {w : Char} (hfamily : family ≠ .system) (he : e.Taken family) :
    (ofEquation settings family text e).AlikeIn w
      (ofEquation settings family (relettered e.unknown w text) ⟨e.coefficients, w⟩) := by
  have hsolution := Equation.solution_letter e.coefficients e.unknown w
  refine ⟨rfl, rfl, rfl, hsolution, ?_, Equation.length_lines _ _ _ _ _,
    fun kind hkind places => ⟨?_, ?_⟩, fun xs hxs places => ?_⟩
  · simp only [ofEquation, hsolution]
  · rw [answer, hkind]
    rfl
  · rw [answer, show (ofEquation _ _ _ _).solution = _ from hsolution.trans hkind]
    rfl
  · have houtcome := e.derive_ending.outcome
    rw [show e.derive.solution = .values xs from hxs] at houtcome
    obtain ⟨named, hnames, hvalues, ha, hb, htext⟩ :=
      Display.answer_relettered w places hfamily he.unknown fun x hx => (houtcome.2 x hx).1
    simp only [answer, hxs, show (ofEquation settings family (relettered e.unknown w text)
      ⟨e.coefficients, w⟩).solution = .values xs from hsolution.trans hxs]
    exact ⟨htext, named, hnames, hvalues, ha, hb⟩

end Worked

/-- **The choice of the unknown does not matter.** A text that is taken as an equation in one
unknown is taken, with any other letter for it, as the same numbers in that letter; and worked out,
from any spelling and under any settings, the two come out alike. A raw text may have the letter put
in place of the unknown as it stands. -/
theorem solveWith_relettered {family : Family} (hfamily : family ≠ .system) {text : String}
    {e : Equation} (h : classify text family = .ok e) {w : Char} (hlow : 'a' ≤ w) (hhigh : w ≤ 'z') :
    classify (relettered e.unknown w text) family = .ok ⟨e.coefficients, w⟩ ∧
    normalize text = text ∧
    normalize (relettered e.unknown w text) = relettered e.unknown w text ∧
    (∀ raw, normalize raw = text → Text.WritesAsIs e.unknown raw →
      normalize (relettered e.unknown w raw) = relettered e.unknown w text) ∧
    ∀ (settings : Settings) (raw raw' : String) (second second' : Option String),
      normalize raw = text → normalize raw' = relettered e.unknown w text →
      ∃ a b, solveWith settings raw second family = .ok a ∧
        solveWith settings raw' second' family = .ok b ∧ a.unknown = e.unknown ∧ a.AlikeIn w b := by
  have hrelettered := classify_relettered hfamily h ⟨hlow, hhigh⟩
  have htaken := taken_of_classify h
  refine ⟨hrelettered, normalize_of_classify hfamily h, normalize_of_classify hfamily hrelettered, ?_, ?_⟩
  · rintro raw rfl hplain
    exact normalize_relettered htaken.unknown ⟨hlow, hhigh⟩ hplain
  intro settings raw raw' second second' hraw hraw'
  have hsolve (raw : String) (second : Option String) : solveWith settings raw second family =
      (classify (normalize raw) family).map (Worked.ofEquation settings family (normalize raw)) := by
    simp only [solveWith, Worked.canonical_of_ne_system hfamily]
    rfl
  refine ⟨_, _, ?_, ?_, rfl, Worked.alikeIn_ofEquation settings text hfamily htaken⟩
  · rw [hsolve, hraw, h]
    rfl
  · rw [hsolve, hraw', hrelettered]
    rfl

/-- An `e` between a numeral and a sign is an unknown like any other, and no exponent. -/
theorem solveWith_relettered_e :
    ∃ a b, solveWith .default "2e + 5 = 11" none .linear = .ok a ∧
      solveWith .default "2X + 5 = 11" none .linear = .ok b ∧ a.unknown = 'e' ∧ a.AlikeIn 'x' b := by
  obtain ⟨e, he, rfl⟩ : ∃ e, classify "2e+5=11" .linear = .ok e ∧ e = ⟨.linear 2 5 11, 'e'⟩ :=
    exists_ok_of_any (by decide +kernel)
  obtain ⟨-, -, -, -, h⟩ := solveWith_relettered (by decide) he (w := 'x') (by decide) (by decide)
  exact h .default "2e + 5 = 11" "2X + 5 = 11" none none (by decide +kernel) (by decide +kernel)

end WorkedEquations
