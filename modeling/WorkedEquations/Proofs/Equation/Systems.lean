/-
Systems of two rows, from two texts or from one text with a semicolon between
the rows.

`classifySystem_eq_iff` gives the outcome for every pair of texts. The two ways
in take the same systems; they also refuse alike unless the first text has a
semicolon itself, for then the one text is parted earlier.

No row has a semicolon (`WritesRow.semicolon_not_mem`), so it does not
matter for a system which semicolon parts the text: with more than one,
some half is no row.
-/
import Mathlib.Data.List.TakeWhile
import WorkedEquations.Proofs.Equation.Characters

namespace WorkedEquations

/-! ## Rows have no semicolon -/

theorem WritesRow.semicolon_not_mem {text : String} {r : Row} (h : WritesRow text r) :
    ';' ∉ text.toList := by
  intro hmem
  have hplain : PlainChar ';' := h.plain ';' hmem
  revert hplain
  decide

theorem WritesRow.ne_empty {text : String} {r : Row} (h : WritesRow text r) : text ≠ "" := by
  rintro rfl
  obtain ⟨f, htext, -⟩ := h
  have : f.text ≠ [] := by simp [RowForm.text]
  exact this htext.symm

/-! ## Two texts -/

/-- Why a pair of texts is refused: a text is missing, or it is the first row that is refused, or
the second after a first that is taken. -/
inductive SystemRefusedFor (first second : String) : Refusal.Cause → Prop where
  | empty : first = "" → SystemRefusedFor first second .empty
  | missingSecond : first ≠ "" → second = "" → SystemRefusedFor first second .missingSecond
  | first {cause : Refusal.Cause} : first ≠ "" → second ≠ "" →
      RefusedFor first (∃ r, WritesRow first r) (RowTooLarge first) cause →
      SystemRefusedFor first second cause
  | second {r : Row} {cause : Refusal.Cause} : WritesRow first r → second ≠ "" →
      RefusedFor second (∃ r, WritesRow second r) (RowTooLarge second) cause →
      SystemRefusedFor first second cause

theorem classifySystem_of_ne_empty {first second : String} (hs : second ≠ "") :
    classifySystem first second =
      (do let r ← classifyRow first; let s ← classifyRow second; return ⟨.system r s, 'x'⟩) := by
  simp [classifySystem, hs]

theorem classifySystem_empty (second : String) :
    classifySystem "" second = .error ⟨.system, .empty⟩ := by
  by_cases hs : second = ""
  · rw [hs]; rfl
  · have hempty : classifyRow "" = .error ⟨.system, .empty⟩ := rfl
    rw [classifySystem_of_ne_empty hs, hempty]
    rfl

theorem classifySystem_missingSecond {first : String} (hf : first ≠ "") :
    classifySystem first "" = .error ⟨.system, .missingSecond⟩ := by
  simp [classifySystem, hf]

theorem classifySystem_eq_ok_iff {first second : String} {e : Equation} :
    classifySystem first second = .ok e ↔
      ∃ r s, WritesRow first r ∧ WritesRow second s ∧ e = ⟨.system r s, 'x'⟩ := by
  by_cases hs : second = ""
  · subst hs
    have hnone : ∀ s, ¬ WritesRow "" s := fun s hs => hs.ne_empty rfl
    unfold classifySystem
    split <;> simp [hnone]
  · simp only [classifySystem_of_ne_empty hs, bind_eq_ok_iff, classifyRow_eq_ok_iff, pure, Except.pure,
      Except.ok.injEq]
    constructor
    · intro ⟨r, hr, s, hs, he⟩
      exact ⟨r, s, hr, hs, he.symm⟩
    · intro ⟨r, s, hr, hs, he⟩
      exact ⟨r, hr, s, hs, he.symm⟩

/-- Two texts that are both there are refused for the first row, or for the second after it. -/
theorem classifySystem_eq_error_iff_of_ne_empty {first second : String} (hs : second ≠ "")
    {r : Refusal} : classifySystem first second = .error r ↔
      r.family = .system ∧ (RefusedFor first (∃ r, WritesRow first r) (RowTooLarge first) r.cause ∨
        (∃ x, WritesRow first x) ∧
          RefusedFor second (∃ r, WritesRow second r) (RowTooLarge second) r.cause) := by
  simp only [classifySystem_of_ne_empty hs, bind_eq_error_iff, classifyRow_eq_ok_iff,
    classifyRow_eq_error_iff, pure, Except.pure, reduceCtorEq, and_false, exists_false, or_false]
  rw [exists_and_right, and_or_left, and_left_comm]

theorem classifySystem_eq_error_iff {first second : String} {r : Refusal} :
    classifySystem first second = .error r ↔
      r.family = .system ∧ SystemRefusedFor first second r.cause := by
  obtain ⟨family, cause⟩ := r
  constructor
  · intro h
    by_cases hf : first = ""
    · subst hf
      cases (classifySystem_empty second).symm.trans h
      exact ⟨rfl, .empty rfl⟩
    by_cases hs : second = ""
    · subst hs
      cases (classifySystem_missingSecond hf).symm.trans h
      exact ⟨rfl, .missingSecond hf rfl⟩
    obtain ⟨hfamily, hcause | ⟨⟨x, hx⟩, hcause⟩⟩ := (classifySystem_eq_error_iff_of_ne_empty hs).mp h
    · exact ⟨hfamily, .first hf hs hcause⟩
    · exact ⟨hfamily, .second hx hs hcause⟩
  · rintro ⟨rfl, h⟩
    cases h with
    | empty hf => rw [hf]; exact classifySystem_empty second
    | missingSecond hf hs => rw [hs]; exact classifySystem_missingSecond hf
    | first _ hs h => exact (classifySystem_eq_error_iff_of_ne_empty hs).mpr ⟨rfl, .inl h⟩
    | second hx hs h => exact (classifySystem_eq_error_iff_of_ne_empty hs).mpr ⟨rfl, .inr ⟨⟨_, hx⟩, h⟩⟩

/-! ## One text -/

/-- A text is parted at its first semicolon. -/
theorem classify_append_semicolon {first : String} (hf : ';' ∉ first.toList) (second : String) :
    classify (first ++ ";" ++ second) .system = classifySystem first second := by
  have hbefore : ∀ c ∈ first.toList, (c != ';') = true := by
    intro c hc
    have : c ≠ ';' := by rintro rfl; exact hf hc
    simpa using this
  have hsplit := takeWhile_dropWhile_append first.toList (';' :: second.toList) hbefore (by simp)
  have htext : (first ++ ";" ++ second).toList = first.toList ++ ';' :: second.toList := by
    simp [String.toList_append]
  simp only [classify, htext, hsplit.1, hsplit.2, String.ofList_toList]

theorem exists_append_semicolon {text : String} (h : ';' ∈ text.toList) :
    ∃ first second : String, ';' ∉ first.toList ∧ text = first ++ ";" ++ second := by
  obtain ⟨before, after, htext, hbefore⟩ := List.eq_append_cons_of_mem h
  refine ⟨String.ofList before, String.ofList after, by simpa using hbefore, ?_⟩
  rw [← String.toList_inj, htext]
  simp [String.toList_append]

theorem classify_system_eq_ok {text : String} {e : Equation} (h : classify text .system = .ok e) :
    ∃ first second, ';' ∉ first.toList ∧ text = first ++ ";" ++ second ∧
      classifySystem first second = .ok e := by
  have hmem : ';' ∈ text.toList := by
    by_contra hmem
    have hnil : text.toList.dropWhile (· != ';') = [] := by
      rw [List.dropWhile_eq_nil_iff]
      intro c hc
      have : c ≠ ';' := by rintro rfl; exact hmem hc
      simpa using this
    simp only [classify, hnil] at h
    cases h
  obtain ⟨first, second, hf, rfl⟩ := exists_append_semicolon hmem
  exact ⟨first, second, hf, rfl, by rwa [classify_append_semicolon hf] at h⟩

theorem classifySystem_semicolon_not_mem {first second : String} {e : Equation}
    (h : classifySystem first second = .ok e) : ';' ∉ first.toList ∧ ';' ∉ second.toList := by
  obtain ⟨r, s, hr, hs, -⟩ := classifySystem_eq_ok_iff.mp h
  exact ⟨hr.semicolon_not_mem, hs.semicolon_not_mem⟩

theorem classify_system_count_semicolon {text : String} {e : Equation}
    (h : classify text .system = .ok e) : text.toList.count ';' = 1 := by
  obtain ⟨first, second, hf, rfl, hok⟩ := classify_system_eq_ok h
  have hs := (classifySystem_semicolon_not_mem hok).2
  simp [String.toList_append, List.count_eq_zero.mpr hf, List.count_eq_zero.mpr hs]

/-- **What two texts are as a system**, and what they are joined by a semicolon. -/
theorem classifySystem_eq_iff (first second : String) :
    (∀ e, classifySystem first second = .ok e ↔
      ∃ r s, WritesRow first r ∧ WritesRow second s ∧ e = ⟨.system r s, 'x'⟩) ∧
    (∀ r, classifySystem first second = .error r ↔
      r.family = .system ∧ SystemRefusedFor first second r.cause) ∧
    (∀ e, classify (first ++ ";" ++ second) .system = .ok e ↔ classifySystem first second = .ok e) ∧
    (';' ∉ first.toList →
      classify (first ++ ";" ++ second) .system = classifySystem first second) ∧
    (∀ e, classifySystem first second = .ok e → ';' ∉ first.toList ∧ ';' ∉ second.toList) ∧
    ∀ text e, classify text .system = .ok e → text.toList.count ';' = 1 := by
  refine ⟨fun e => classifySystem_eq_ok_iff, fun r => classifySystem_eq_error_iff, fun e => ?_,
    fun hf => classify_append_semicolon hf second, fun e => classifySystem_semicolon_not_mem,
    fun text e => classify_system_count_semicolon⟩
  constructor
  · intro h
    have hcount := classify_system_count_semicolon h
    have hf : ';' ∉ first.toList := by
      rw [← List.count_eq_zero]
      simp only [String.toList_append, List.count_append] at hcount
      have : (";".toList).count ';' = 1 := rfl
      omega
    rwa [classify_append_semicolon hf] at h
  · intro h
    rwa [classify_append_semicolon (classifySystem_semicolon_not_mem h).1]

end WorkedEquations
