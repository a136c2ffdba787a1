/-
The answer line and the end of the steps agree. They are made apart: the
answer names the values of the solution, and each step that works a value out
names it in its own words.

`WorksOut` is what such a step looks like. For each way to end with values,
the last steps work out the named values in the order of the answer.
-/
import WorkedEquations.Proofs.Solution.Endings

namespace WorkedEquations

open Display

/-! ## Lines that work out a value -/

/-- The line works a value out: behind the lead-in its name, how it comes about, and at the end the
value as it is shown. -/
def WorksOut (leadIn name shown line : String) : Prop :=
  ∃ middle, line = leadIn ++ name ++ " = " ++ middle ++ " = " ++ shown

/-- What leads in to the name of a value: both sides of a linear equation are divided. -/
def Equation.leadIn (places : Nat) (e : Equation) : String :=
  match e.coefficients with
  | .linear a _ _ => "Divide both sides by " ++ number places a ++ ": "
  | _ => ""

namespace Step
variable (places : Nat) (x : Binary64) (v : Char)

theorem divide_worksOut (a rest : Binary64) :
    WorksOut ("Divide both sides by " ++ number places a ++ ": ") (String.singleton v)
      (number places x) ((divide a rest x v).text places) := by
  refine ⟨number places rest ++ " / " ++ factor places a, ?_⟩
  have htext : (divide a rest x v).text places = "Divide both sides by " ++ number places a ++ ": " ++
      String.singleton v ++ " = " ++ number places rest ++ " / " ++ factor places a ++ " = " ++
      number places x := rfl
  rw [htext]
  simp only [String.append_assoc]

theorem repeatedRoot_worksOut (minusB twoA : Binary64) :
    WorksOut "" (String.singleton v) (number places x)
      ((repeatedRoot minusB twoA x v).text places) := by
  refine ⟨"-b / (2a) = " ++ number places minusB ++ " / " ++ factor places twoA, ?_⟩
  have htext : (repeatedRoot minusB twoA x v).text places = String.singleton v ++
      " = -b / (2a) = " ++ number places minusB ++ " / " ++ factor places twoA ++ " = " ++
      number places x := rfl
  have hformula : " = -b / (2a) = " = " = " ++ "-b / (2a) = " := by decide
  rw [htext, hformula]
  simp only [String.append_assoc, String.empty_append]

theorem branchRoot_worksOut (branch : Branch) (minusB root twoA : Binary64) :
    WorksOut "" (subscripted v branch.index) (number places x)
      ((branchRoot branch minusB root twoA x v).text places) := by
  refine ⟨"(-b " ++ branch.text ++ " √Δ) / (2a) = (" ++ number places minusB ++ " " ++ branch.text ++
    " " ++ number places root ++ ") / " ++ factor places twoA, ?_⟩
  have htext : (branchRoot branch minusB root twoA x v).text places = subscripted v branch.index ++
      " = (-b " ++ branch.text ++ " √Δ) / (2a) = (" ++ number places minusB ++ " " ++ branch.text ++
      " " ++ number places root ++ ") / " ++ factor places twoA ++ " = " ++ number places x := rfl
  have hformula : " = (-b " = " = " ++ "(-b " := by decide
  rw [htext, hformula]
  simp only [String.append_assoc, String.empty_append]

/-- A line of Cramer's rule: the name, the determinant it stands for over `D`, and both shown. -/
theorem ratio_worksOut {name formula lead : String} (hlead : lead = name ++ (" = " ++ formula))
    (top d : Binary64) :
    WorksOut "" name (number places x)
      (lead ++ number places top ++ " / " ++ factor places d ++ " = " ++ number places x) := by
  refine ⟨formula ++ number places top ++ " / " ++ factor places d, ?_⟩
  rw [hlead]
  simp only [String.append_assoc, String.empty_append]

end Step

/-! ## Names -/

namespace Display

/-- The decimal digit with a subscript. -/
def digitOfSubscript (c : Char) : Char := Char.ofNat (c.toNat - 0x2080 + 0x30)

/-- What holds of the digits, code point by code point, holds of every digit. -/
theorem of_isDigit {p : Char → Prop} (h : ∀ n < 0x3A, 0x30 ≤ n → p (Char.ofNat n)) {c : Char}
    (hc : c.isDigit = true) : p c := by
  simp only [Char.isDigit, Bool.and_eq_true, decide_eq_true_eq] at hc
  have hlow : 0x30 ≤ c.toNat := hc.1
  have hhigh : c.toNat ≤ 0x39 := hc.2
  have hdigit := h c.toNat (by omega) hlow
  rwa [Char.ofNat_toNat] at hdigit

theorem digitOfSubscript_subscriptDigit {c : Char} (hc : c.isDigit = true) :
    digitOfSubscript (subscriptDigit c) = c :=
  of_isDigit (p := fun c => digitOfSubscript (subscriptDigit c) = c) (by decide) hc

/-- **Numbers below a letter tell the names apart.** -/
theorem subscripted_injective (v : Char) : Function.Injective (subscripted v) := by
  intro i j h
  have hread : ∀ n : Nat, ((Nat.toDigits 10 n).map subscriptDigit).map digitOfSubscript =
      Nat.toDigits 10 n := by
    intro n
    rw [List.map_map]
    refine (List.map_congr_left fun c hc => ?_).trans (List.map_id _)
    have hdigit : c.isDigit = true := Nat.isDigit_of_mem_toDigits (by decide) (by decide) hc
    rw [Function.comp_apply, digitOfSubscript_subscriptDigit hdigit, id]
  have hdigits := (List.cons.inj (String.ofList_injective h)).2
  have hplain := congrArg (List.map digitOfSubscript) hdigits
  rw [hread, hread] at hplain
  have hvalue := congrArg (Nat.ofDigitChars 10 · 0) hplain
  simpa only [Nat.ofDigitChars_ten_toDigits] using hvalue

/-- **No two values have the same name.** -/
theorem labels_nodup (family : Family) (v : Char) (count : Nat) : (labels family v count).Nodup := by
  have hnumbered : ((List.range count).map fun i => subscripted v (i + 1)).Nodup := by
    refine List.Nodup.map (fun i j h => ?_) List.nodup_range
    exact Nat.succ_injective (subscripted_injective v h)
  unfold labels
  split
  · simp
  · cases family with
    | system => exact (by decide : ["x", "y"].Nodup)
    | linear => exact hnumbered
    | quadratic => exact hnumbered

theorem answer_eq {places : Nat} {family : Family} {v : Char} {named : List (String × Binary64)}
    (hnames : named.map Prod.fst = labels family v named.length) :
    answer places family v (.values (named.map Prod.snd)) =
      ", ".intercalate (named.map fun p => p.1 ++ " = " ++ number places p.2) := by
  rw [answer, List.length_map, ← hnames, List.zipWith_map, List.zipWith_self]
  rfl

end Display

/-! ## The answer and the steps -/

/-- The values of a derivation, with their names, in the answer and at the end of the steps. -/
structure Derivation.Reports (places : Nat) (e : Equation) (d : Derivation)
    (named : List (String × Binary64)) : Prop where
  solution : d.solution = .values (named.map Prod.snd)
  names : named.map Prod.fst = labels e.family e.unknown named.length
  trace : ∃ before trace, d.lines places = before ++ trace ∧
    List.Forall₂ (fun p line => WorksOut (e.leadIn places) p.1 (number places p.2) line) named trace

/-- A derivation that ends with values ends with the steps that work them out. -/
theorem Ending.reports {e : Equation} {d : Derivation} (h : Ending e d) (places : Nat) :
    d.solution.isDegenerate = true ∨ ∃ named, d.Reports places e named := by
  cases h with
  | infinitelyMany | noSolution | notQuadratic | noRealSolution | zeroDeterminant | notFinite =>
    exact .inl rfl
  | @divided a b c rest x v known =>
    refine .inr ⟨[(String.singleton v, x)], rfl, rfl, _, _, List.map_append, ?_⟩
    exact .cons (Step.divide_worksOut places x v a rest) .nil
  | @repeatedRoot a b c x v known =>
    refine .inr ⟨[(String.singleton v, x)], rfl, rfl, _, _, List.map_append, ?_⟩
    exact .cons (Step.repeatedRoot_worksOut places x v (-b) (2 * a)) .nil
  | @roots a b c delta root x₁ x₂ v known =>
    refine .inr ⟨[(subscripted v 1, x₁), (subscripted v 2, x₂)], rfl, rfl, _, _, List.map_append, ?_⟩
    exact .cons (Step.branchRoot_worksOut places x₁ v .plus (-b) root (2 * a))
      (.cons (Step.branchRoot_worksOut places x₂ v .minus (-b) root (2 * a)) .nil)
  | @ratios r s v dx dy d x y known =>
    refine .inr ⟨[("x", x), ("y", y)], rfl, rfl, _, _, List.map_append, ?_⟩
    have hx : "x = (c₁·b₂ - c₂·b₁) / D = " = "x" ++ (" = " ++ "(c₁·b₂ - c₂·b₁) / D = ") := by decide
    have hy : "y = (a₁·c₂ - a₂·c₁) / D = " = "y" ++ (" = " ++ "(a₁·c₂ - a₂·c₁) / D = ") := by decide
    exact .cons (Step.ratio_worksOut places x hx dx d)
      (.cons (Step.ratio_worksOut places y hy dy d) .nil)

/-- **The answer agrees with the steps.** A degenerate outcome is answered with its message. Values
are answered with distinct names, none left out, and the last steps work them out in that order,
under those names and with the numbers as the answer shows them. -/
theorem answer_agrees (e : Equation) (places : Nat) :
    match e.derive.solution with
    | .degenerate kind => answer places e.family e.unknown e.derive.solution = kind.message
    | .values xs => ∃ named : List (String × Binary64),
        named.map Prod.fst = labels e.family e.unknown xs.length ∧ named.map Prod.snd = xs ∧
        (named.map Prod.fst).Nodup ∧
        answer places e.family e.unknown e.derive.solution =
          ", ".intercalate (named.map fun p => p.1 ++ " = " ++ number places p.2) ∧
        ∃ before trace, e.derive.lines places = before ++ trace ∧
          List.Forall₂ (fun p line => WorksOut (e.leadIn places) p.1 (number places p.2) line)
            named trace := by
  rcases e.derive_ending.reports places with hdegenerate | ⟨named, hsolution, hnames, htrace⟩
  · cases hsolution : e.derive.solution with
    | values xs =>
      rw [hsolution] at hdegenerate
      cases hdegenerate
    | degenerate kind => rfl
  · rw [hsolution]
    refine ⟨named, by rw [List.length_map, hnames], rfl, ?_, answer_eq hnames, htrace⟩
    rw [hnames]
    exact labels_nodup _ _ _

end WorkedEquations
