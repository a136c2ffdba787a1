/-
Runs of characters of a class at the ends of a text, and trimming.

A run ends where a character is not of the class (`takeWhile_dropWhile_append`).
Trimming takes the white space away from both ends, and nothing else
(`Text.trim_append`, `Text.exists_eq_append_trim`).
-/
import Mathlib.Data.List.TakeWhile
import WorkedEquations.Text.Blank

namespace WorkedEquations

/-- A run of characters of a class, up to one that is not. -/
theorem takeWhile_dropWhile_append {p : Char → Bool} (run rest : List Char)
    (hrun : ∀ c ∈ run, p c = true) (hrest : ∀ c ∈ rest.head?, p c = false) :
    (run ++ rest).takeWhile p = run ∧ (run ++ rest).dropWhile p = rest := by
  rw [List.takeWhile_append_of_pos hrun, List.dropWhile_append_of_pos hrun]
  cases rest with
  | nil => simp
  | cons c rest => simp [hrest c rfl]

theorem head?_dropWhile {p : Char → Bool} (cs : List Char) :
    ∀ c ∈ (cs.dropWhile p).head?, p c = false := by
  intro c hc
  have h := List.head?_dropWhile_not p cs
  rw [hc] at h
  exact h

theorem dropWhile_eq_self {p : Char → Bool} {cs : List Char} (h : ∀ c ∈ cs.head?, p c = false) :
    cs.dropWhile p = cs := (takeWhile_dropWhile_append [] cs (by simp) h).2

namespace Text

/-- White space and nothing else. -/
def Blank (cs : List Char) : Prop := ∀ c ∈ cs, isBlank c = true

instance (cs : List Char) : Decidable (Blank cs) :=
  decidable_of_iff (cs.all isBlank = true) List.all_eq_true

theorem blank_nil : Blank [] := by simp [Blank]

/-- There is no white space at the start or at the end. -/
structure Trimmed (cs : List Char) : Prop where
  head : ∀ c ∈ cs.head?, isBlank c = false
  last : ∀ c ∈ cs.getLast?, isBlank c = false

theorem trimmed_iff {cs : List Char} : Trimmed cs ↔
    (cs.head?.all fun c => !isBlank c) = true ∧ (cs.getLast?.all fun c => !isBlank c) = true := by
  simp only [Option.all_eq_true, Bool.not_eq_true']
  exact ⟨fun h => ⟨h.head, h.last⟩, fun h => ⟨h.1, h.2⟩⟩

instance (cs : List Char) : Decidable (Trimmed cs) := decidable_of_iff _ trimmed_iff.symm

theorem trimmed_nil : Trimmed [] := ⟨by simp, by simp⟩

/-- What stands last decides how a text ends. -/
theorem trimmed_append {before cs : List Char} (hne : cs ≠ [])
    (hhead : ∀ c ∈ (before ++ cs).head?, isBlank c = false)
    (hlast : ∀ c ∈ cs.getLast?, isBlank c = false) : Trimmed (before ++ cs) := by
  refine ⟨hhead, fun c hc => hlast c ?_⟩
  rwa [List.getLast?_append, List.getLast?_eq_some_getLast hne, Option.some_or,
    ← List.getLast?_eq_some_getLast hne] at hc

theorem Trimmed.of_append {before cs : List Char} (h : Trimmed (before ++ cs))
    (hhead : ∀ c ∈ cs.head?, isBlank c = false) : Trimmed cs := by
  refine ⟨hhead, fun c hc => h.last c ?_⟩
  rw [List.getLast?_append, Option.mem_def.mp hc, Option.some_or]
  rfl

theorem trimStart_append {blanks cs : List Char} (hblanks : Blank blanks)
    (hcs : ∀ c ∈ cs.head?, isBlank c = false) : trimStart (blanks ++ cs) = cs :=
  (takeWhile_dropWhile_append blanks cs hblanks hcs).2

theorem trimStart_blank {blanks : List Char} (hblanks : Blank blanks) : trimStart blanks = [] := by
  have h : trimStart (blanks ++ []) = [] := trimStart_append hblanks (by simp)
  rwa [List.append_nil] at h

theorem trimEnd_append {blanks cs : List Char} (hblanks : Blank blanks)
    (hcs : ∀ c ∈ cs.getLast?, isBlank c = false) : trimEnd (cs ++ blanks) = cs := by
  have hreverse : Blank blanks.reverse := fun c hc => hblanks c (List.mem_reverse.mp hc)
  have hhead : ∀ c ∈ cs.reverse.head?, isBlank c = false := by simpa using hcs
  have h := trimStart_append hreverse hhead
  unfold trimStart at h
  rw [trimEnd, List.reverse_append, h, List.reverse_reverse]

/-- **What stands between white space** is what trimming leaves. -/
theorem trim_append {before cs after : List Char} (hbefore : Blank before) (hcs : Trimmed cs)
    (hafter : Blank after) : trim (before ++ cs ++ after) = cs := by
  rw [trim, List.append_assoc]
  cases cs with
  | nil =>
    have hall : Blank (before ++ after) := by
      intro c hc
      rcases List.mem_append.mp hc with hc | hc
      · exact hbefore c hc
      · exact hafter c hc
    rw [List.nil_append, trimStart_blank hall]
    rfl
  | cons c cs =>
    rw [trimStart_append hbefore (by simpa using hcs.head)]
    exact trimEnd_append hafter hcs.last

theorem trim_blank_append {blanks : List Char} (hblanks : Blank blanks) (cs : List Char) :
    trim (blanks ++ cs) = trim cs := by
  rw [trim, trim, trimStart, trimStart, List.dropWhile_append_of_pos hblanks]

theorem trim_eq_self {cs : List Char} (hcs : Trimmed cs) : trim cs = cs := by
  have h := trim_append blank_nil hcs blank_nil
  rwa [List.nil_append, List.append_nil] at h

theorem exists_trimStart_eq (cs : List Char) :
    ∃ after, Blank after ∧ trimStart cs = trim cs ++ after := by
  refine ⟨((trimStart cs).reverse.takeWhile isBlank).reverse, ?_, ?_⟩
  · exact fun c hc => List.mem_takeWhile_imp (List.mem_reverse.mp hc)
  · rw [trim, trimEnd, ← List.reverse_append, List.takeWhile_append_dropWhile, List.reverse_reverse]

theorem trimmed_trim (cs : List Char) : Trimmed (trim cs) := by
  obtain ⟨after, -, hstart⟩ := exists_trimStart_eq cs
  constructor
  · intro c hc
    refine head?_dropWhile (p := isBlank) cs c ?_
    change (trimStart cs).head? = some c
    rw [hstart, List.head?_append, Option.mem_def.mp hc, Option.some_or]
  · rw [trim, trimEnd, List.getLast?_reverse]
    exact head?_dropWhile _

/-- **What trimming takes away** is white space. -/
theorem exists_eq_append_trim (cs : List Char) :
    ∃ before after, Blank before ∧ Blank after ∧ cs = before ++ trim cs ++ after := by
  obtain ⟨after, hafter, hstart⟩ := exists_trimStart_eq cs
  refine ⟨cs.takeWhile isBlank, after, fun c hc => List.mem_takeWhile_imp hc, hafter, ?_⟩
  rw [List.append_assoc, ← hstart]
  exact List.takeWhile_append_dropWhile.symm

theorem eq_nil_of_blank {cs : List Char} (hblank : Blank cs)
    (hlast : ∀ c ∈ cs.getLast?, isBlank c = false) : cs = [] := by
  by_contra hne
  have hnot := hlast _ (List.getLast?_eq_some_getLast hne)
  rw [hblank _ (List.getLast_mem hne)] at hnot
  cases hnot

theorem exists_eq_blank_append_trim {cs : List Char}
    (hlast : ∀ c ∈ cs.getLast?, isBlank c = false) :
    ∃ blanks, Blank blanks ∧ cs = blanks ++ trim cs := by
  obtain ⟨before, after, hbefore, hafter, hcs⟩ := exists_eq_append_trim cs
  have hnil : after = [] := eq_nil_of_blank hafter fun c hc => by
    refine hlast c ?_
    rw [hcs, List.getLast?_append, Option.mem_def.mp hc, Option.some_or]
    rfl
  rw [hnil, List.append_nil] at hcs
  exact ⟨before, hbefore, hcs⟩

theorem Trimmed.eq_nil_of_append {before cs after : List Char}
    (h : Trimmed (before ++ cs ++ after)) (hbefore : Blank before) (hafter : Blank after) :
    before = [] ∧ after = [] := by
  constructor
  · cases before with
    | nil => rfl
    | cons c before =>
      have hnot := h.head c rfl
      rw [hbefore c List.mem_cons_self] at hnot
      cases hnot
  · refine eq_nil_of_blank hafter fun c hc => h.last c ?_
    rw [List.getLast?_append, Option.mem_def.mp hc, Option.some_or]
    rfl

theorem trim_eq_nil_iff {cs : List Char} : trim cs = [] ↔ Blank cs := by
  constructor
  · intro h
    obtain ⟨before, after, hbefore, hafter, hcs⟩ := exists_eq_append_trim cs
    rw [h, List.append_nil] at hcs
    intro c hc
    rw [hcs] at hc
    rcases List.mem_append.mp hc with hc | hc
    · exact hbefore c hc
    · exact hafter c hc
  · intro h
    rw [trim, trimStart_blank h]
    rfl

end Text
end WorkedEquations
