/-
The lines of a document that count: those that are neither blank nor comments.

`Holds text lines` says how a text is made of such lines, with any number of
blank lines and comments before, between and after them, each line ended by a
line feed or by a carriage return and a line feed.

Which lines count is told by `isContent_iff`. A text holds the lines that are
kept of it, and no others (`holds_contentLines`, `contentLines_of_holds`).
-/
import WorkedEquations.Document.Parser
import WorkedEquations.Proofs.Text.Runs

namespace WorkedEquations

/-! ## Cutting into lines -/

namespace Text

theorem pieces_ne_nil (separator : Char) (cs : List Char) : pieces separator cs ≠ [] := by
  cases cs with
  | nil => simp [pieces]
  | cons c rest =>
    rw [pieces]
    split
    · simp
    · split <;> simp

theorem pieces_of_not_mem {separator : Char} {piece : List Char} (h : separator ∉ piece) :
    pieces separator piece = [piece] := by
  induction piece with
  | nil => rfl
  | cons c piece ih =>
    rw [List.mem_cons, not_or] at h
    rw [pieces, if_neg (Ne.symm h.1), ih h.2]

theorem pieces_append {separator : Char} {piece : List Char} (h : separator ∉ piece)
    (rest : List Char) :
    pieces separator (piece ++ separator :: rest) = piece :: pieces separator rest := by
  induction piece with
  | nil => rw [List.nil_append, pieces, if_pos rfl]
  | cons c piece ih =>
    rw [List.mem_cons, not_or] at h
    rw [List.cons_append, pieces, if_neg (Ne.symm h.1), ih h.2]

theorem lines_append {line : List Char} (h : '\n' ∉ line) (rest : List Char) :
    lines (line ++ '\n' :: rest) = dropReturn line :: lines rest := by
  rw [lines, pieces_append h, lines]
  obtain ⟨piece, others, hpieces⟩ := List.exists_cons_of_ne_nil (pieces_ne_nil '\n' rest)
  rw [hpieces]
  rfl

theorem lines_of_not_mem {line : List Char} (h : '\n' ∉ line) :
    lines line = if line.isEmpty then [] else [line] := by
  rw [lines, pieces_of_not_mem h, linesOfPieces]

theorem dropReturn_concat (line : List Char) : dropReturn (line ++ ['\r']) = line := by
  simp [dropReturn]

theorem dropReturn_of_ne {line : List Char} (h : line.getLast? ≠ some '\r') :
    dropReturn line = line := if_neg h

end Text

namespace Document

open Text (Blank)

/-! ## Lines that do not count -/

/-- What comments start with. -/
def commentMarks : List (List Char) := [['/', '/'], ['#'], ['%'], [';']]

/-- A comment: a mark behind white space, and anything after it. -/
def IsComment (line : List Char) : Prop :=
  ∃ blanks mark rest, line = blanks ++ mark ++ rest ∧ Blank blanks ∧ mark ∈ commentMarks

/-- A line that does not count. -/
def Ignored (line : List Char) : Prop := Blank line ∨ IsComment line

def StartsComment (cs : List Char) : Prop := ∃ mark ∈ commentMarks, mark <+: cs

theorem not_isBlank_of_mem_mark {mark : List Char} (h : mark ∈ commentMarks) :
    ∀ c ∈ mark, Text.isBlank c = false := by
  have hall : ∀ mark ∈ commentMarks, (mark.all fun c => !Text.isBlank c) = true := by decide
  intro c hc
  have hnot := List.all_eq_true.mp (hall mark h) c hc
  rwa [Bool.not_eq_true'] at hnot

/-- White space at the end of a text does not make a comment of it. -/
theorem StartsComment.of_append {cs blanks : List Char} (hblanks : Blank blanks)
    (h : StartsComment (cs ++ blanks)) : StartsComment cs := by
  obtain ⟨mark, hmark, hprefix⟩ := h
  rcases List.prefix_or_prefix_of_prefix hprefix (List.prefix_append cs blanks) with hcs | hcs
  · exact ⟨mark, hmark, hcs⟩
  · -- What of the mark stands behind `cs` is white space, and a mark has none.
    obtain ⟨more, rfl⟩ := hcs
    have hmore : more = [] := by
      rw [List.eq_nil_iff_forall_not_mem]
      intro c hc
      have hblank := hblanks c (((List.prefix_append_right_inj cs).mp hprefix).subset hc)
      have hnot := not_isBlank_of_mem_mark hmark c (List.mem_append_right cs hc)
      rw [hblank] at hnot
      cases hnot
    subst hmore
    exact ⟨_, hmark, by simp⟩

theorem isComment_iff {line : List Char} : IsComment line ↔ StartsComment (Text.trim line) := by
  constructor
  · rintro ⟨blanks, mark, rest, rfl, hblanks, hmark⟩
    have hhead : ∀ c ∈ (mark ++ rest).head?, Text.isBlank c = false := by
      have hne : ∀ mark ∈ commentMarks, mark ≠ [] := by decide
      obtain ⟨c, cs, rfl⟩ := List.exists_cons_of_ne_nil (hne mark hmark)
      simpa using not_isBlank_of_mem_mark hmark c List.mem_cons_self
    obtain ⟨after, hafter, hstart⟩ := Text.exists_trimStart_eq (blanks ++ mark ++ rest)
    rw [List.append_assoc, Text.trimStart_append hblanks hhead, ← List.append_assoc] at hstart
    exact StartsComment.of_append hafter ⟨mark, hmark, hstart ▸ List.prefix_append mark rest⟩
  · rintro ⟨mark, hmark, rest, htrim⟩
    obtain ⟨before, after, hbefore, -, hline⟩ := Text.exists_eq_append_trim line
    refine ⟨before, mark, rest ++ after, ?_, hbefore, hmark⟩
    rw [hline, ← htrim]
    simp only [List.append_assoc]

/-- **Which lines count.** -/
theorem isContent_iff {line : List Char} : isContent line = true ↔ ¬ Ignored line := by
  have hcontent : isContent line = true ↔ Text.trim line ≠ [] ∧ ¬ StartsComment (Text.trim line) := by
    simp only [StartsComment, commentMarks, List.mem_cons, List.not_mem_nil, or_false,
      exists_eq_or_imp, exists_eq_left]
    unfold isContent
    split
    · simp [*]
    · simp [*]
    · simp [*]
    · simp [*]
    · simp [*]
    next hempty hslashes hhash hpercent hsemicolon =>
      refine ⟨fun _ => ⟨hempty, ?_⟩, fun _ => rfl⟩
      rintro (⟨rest, h⟩ | ⟨rest, h⟩ | ⟨rest, h⟩ | ⟨rest, h⟩)
      · exact hslashes rest h.symm
      · exact hhash rest h.symm
      · exact hpercent rest h.symm
      · exact hsemicolon rest h.symm
  rw [hcontent, Ignored, isComment_iff, ← Text.trim_eq_nil_iff, not_or]

/-! ## The lines that count -/

/-- A line and how it ends: with a line feed, with a carriage return and a line feed, or with the
text. -/
def EndsLine (line ending rest : List Char) : Prop :=
  '\n' ∉ line ∧
    (ending = ['\r', '\n'] ∨ ending = ['\n'] ∧ line.getLast? ≠ some '\r' ∨ ending = [] ∧ rest = [])

/-- The text holds these lines, with lines that do not count around them. -/
inductive Holds : (text : List Char) → (lines : List (List Char)) → Prop where
  | nil : Holds [] []
  | ignored {line ending rest : List Char} {lines : List (List Char)} :
      EndsLine line ending rest → Ignored line → Holds rest lines →
      Holds (line ++ ending ++ rest) lines
  | content {line ending rest : List Char} {lines : List (List Char)} :
      EndsLine line ending rest → ¬ Ignored line → Holds rest lines →
      Holds (line ++ ending ++ rest) (line :: lines)

/-- The lines of a text that count. -/
def contentLines (cs : List Char) : List (List Char) := (Text.lines cs).filter isContent

theorem contentLines_append {line ending rest : List Char} (h : EndsLine line ending rest) :
    contentLines (line ++ ending ++ rest) =
      if isContent line then line :: contentLines rest else contentLines rest := by
  obtain ⟨hline, rfl | ⟨rfl, hlast⟩ | ⟨rfl, rfl⟩⟩ := h
  · have hreturn : '\n' ∉ line ++ ['\r'] := by simpa using hline
    have hsplit : line ++ ['\r', '\n'] ++ rest = (line ++ ['\r']) ++ '\n' :: rest := by simp
    rw [contentLines, hsplit, Text.lines_append hreturn, Text.dropReturn_concat, List.filter_cons]
    rfl
  · have hsplit : line ++ ['\n'] ++ rest = line ++ '\n' :: rest := by simp
    rw [contentLines, hsplit, Text.lines_append hline, Text.dropReturn_of_ne hlast, List.filter_cons]
    rfl
  · rw [List.append_nil, List.append_nil, contentLines, Text.lines_of_not_mem hline]
    cases line with
    | nil => rfl
    | cons c line =>
      rw [List.isEmpty_cons, if_neg Bool.false_ne_true, List.filter_cons]
      rfl

theorem contentLines_of_holds {cs : List Char} {lines : List (List Char)} (h : Holds cs lines) :
    contentLines cs = lines := by
  induction h with
  | nil => rfl
  | ignored hline hignored _ ih =>
    rw [contentLines_append hline, ih, if_neg (by rwa [isContent_iff, not_not])]
  | content hline hcontent _ ih =>
    rw [contentLines_append hline, ih, if_pos (isContent_iff.mpr hcontent)]

theorem exists_endsLine {cs : List Char} (h : cs ≠ []) :
    ∃ line ending rest, EndsLine line ending rest ∧ cs = line ++ ending ++ rest ∧
      rest.length < cs.length := by
  by_cases hfeed : '\n' ∈ cs
  · obtain ⟨line, rest, rfl, hline⟩ := List.eq_append_cons_of_mem hfeed
    by_cases hlast : line.getLast? = some '\r'
    · obtain ⟨before, rfl⟩ := List.getLast?_eq_some_iff.mp hlast
      refine ⟨before, ['\r', '\n'], rest, ⟨?_, .inl rfl⟩, by simp, by simp; omega⟩
      exact fun hmem => hline (List.mem_append_left _ hmem)
    · exact ⟨line, ['\n'], rest, ⟨hline, .inr (.inl ⟨rfl, hlast⟩)⟩, by simp, by simp; omega⟩
  · exact ⟨cs, [], [], ⟨hfeed, .inr (.inr ⟨rfl, rfl⟩)⟩, by simp, List.length_pos_iff.mpr h⟩

/-- **Every text holds the lines that count.** -/
theorem holds_contentLines (cs : List Char) : Holds cs (contentLines cs) := by
  induction hlength : cs.length using Nat.strong_induction_on generalizing cs with
  | _ n ih =>
    by_cases hcs : cs = []
    · subst hcs
      exact .nil
    · obtain ⟨line, ending, rest, hline, rfl, hrest⟩ := exists_endsLine hcs
      have hholds := ih rest.length (by omega) rest rfl
      rw [contentLines_append hline]
      split
      next hcontent => exact .content hline (isContent_iff.mp hcontent) hholds
      next hcontent =>
        rw [isContent_iff, not_not] at hcontent
        exact .ignored hline hcontent hholds

end Document
end WorkedEquations
