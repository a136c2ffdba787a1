/-
Samples as lines of text.

The plain text of a number, the infinities and NaN among them, has no
character that a record would have to quote. So an exported point is two bare
fields, and whoever cuts the text at its line feeds and commas has the points.

`field_plainText` holds of every number. Exported points are a table with a row
for each of them (`toCsv_lines`), and the table is enough to have the points
back (`toCsv_readBack`).
-/
import WorkedEquations.Curve.Export
import WorkedEquations.Proofs.Document.Lines
import WorkedEquations.Proofs.Settings.Fields

namespace WorkedEquations

namespace Text

/-- The text that consists of the lines, each with a line feed at its end. -/
def ofLines (lines : List String) : String := String.join (lines.map (· ++ "\n"))

theorem ofLines_cons (line : String) (lines : List String) :
    ofLines (line :: lines) = line ++ "\n" ++ ofLines lines := by
  rw [ofLines, List.map_cons, String.join_cons]
  rfl

/-- Lines are the pieces of a text between its line feeds. Nothing follows the last line feed. -/
theorem pieces_ofLines {lines : List String} (h : ∀ line ∈ lines, '\n' ∉ line.toList) :
    pieces '\n' (ofLines lines).toList = lines.map String.toList ++ [[]] := by
  induction lines with
  | nil => rfl
  | cons line lines ih =>
    have hline := h line List.mem_cons_self
    have hlines := ih fun l hl => h l (List.mem_cons_of_mem line hl)
    have hfeed : "\n".toList = ['\n'] := rfl
    rw [ofLines_cons, String.toList_append, String.toList_append, hfeed, List.append_assoc,
      List.singleton_append, pieces_append hline, hlines]
    rfl

/-- The field has nothing in it that ends a field or a record, and no quote. -/
def Unquoted (field : String) : Prop := ∀ c ∈ field.toList, c ∉ [',', '"', '\r', '\n']

theorem Unquoted.recordField_eq {field : String} (h : Unquoted field) : recordField field = field := by
  have hnone : field.toList.any recordMarks.contains = false := by
    refine List.any_eq_false.mpr fun c hc => ?_
    rw [List.contains_iff_mem]
    exact h c hc
  rw [recordField, hnone, if_neg Bool.false_ne_true]

/-- **Two bare fields are written as they are,** with a comma between them. -/
theorem record_pair {x y : String} (hx : Unquoted x) (hy : Unquoted y) :
    record [x, y] = x ++ "," ++ y ++ "\n" := by
  have hline : (x ++ "," ++ y).isEmpty = false := by
    simp [String.isEmpty_eq_false_iff]
  have hfields : ",".intercalate ([x, y].map recordField) = x ++ "," ++ y := by
    rw [List.map_cons, List.map_cons, hx.recordField_eq, hy.recordField_eq]
    rfl
  simp only [record, hfields, hline, if_false, Bool.false_eq_true]

theorem pieces_comma {x y : String} (hx : Unquoted x) (hy : Unquoted y) :
    pieces ',' (x ++ "," ++ y).toList = [x.toList, y.toList] := by
  have hcomma : ",".toList = [','] := rfl
  have hbare : ∀ {field : String}, Unquoted field → ',' ∉ field.toList := fun h hc =>
    h ',' hc List.mem_cons_self
  rw [String.toList_append, String.toList_append, hcomma, List.append_assoc, List.singleton_append,
    pieces_append (hbare hx), pieces_of_not_mem (hbare hy)]

end Text

namespace Curve

/-- A field of a table that reads as the number, with nothing in it that would end it early. -/
structure Field (text : String) (x : Binary64) : Prop where
  comma : ',' ∉ text.toList
  lineFeed : '\n' ∉ text.toList
  reads : Binary64.ofText? text.toList = some x

theorem unquoted_plainText (x : Binary64) : Text.Unquoted x.plainText := by
  have hmarks : [',', '"', '\r', '\n'].all (fun c => !Settings.isPlain c) = true := by decide
  intro c hc hmark
  have hplain : Settings.isPlain c = true := (Settings.plain_plainText x).2 c hc
  have hnot := List.all_eq_true.mp hmarks c hmark
  rw [hplain] at hnot
  cases hnot

/-- The lines of a table. -/
def tableLines (points : List Point) : List String :=
  "x,y" :: points.map fun p => p.x.plainText ++ "," ++ p.y.plainText

theorem toCsv_lines (points : List Point) : toCsv points = Text.ofLines (tableLines points) := by
  have hheading : Text.record ["x", "y"] = "x,y" ++ "\n" := by decide
  have hrow : ∀ p : Point, Text.record [p.x.plainText, p.y.plainText] =
      p.x.plainText ++ "," ++ p.y.plainText ++ "\n" := fun p =>
    Text.record_pair (unquoted_plainText p.x) (unquoted_plainText p.y)
  simp only [toCsv, tableLines, Text.ofLines, List.map_cons, List.map_map, Function.comp_def,
    hheading, hrow]

/-! ## Reading a table back -/

/-- The point of a row: two fields with a comma between them, each read as a number. -/
def pointOf? (read : List Char → Option Binary64) (row : List Char) : Option Point :=
  match Text.pieces ',' row with
  | [x, y] => do return ⟨← read x, ← read y⟩
  | _ => none

/-- The points of a table: under the names of the columns the rows, each ended by a line feed. -/
def ofCsv? (read : List Char → Option Binary64) (text : String) : Option (List Point) :=
  match Text.pieces '\n' text.toList with
  | heading :: rows =>
    if heading = "x,y".toList ∧ rows.getLast? = some [] then rows.dropLast.mapM (pointOf? read)
    else none
  | [] => none

theorem pointOf?_row {read : List Char → Option Binary64} (hread : Binary64.RoundsCorrectly read)
    (p : Point) : pointOf? read (p.x.plainText ++ "," ++ p.y.plainText).toList = some p := by
  rw [pointOf?, Text.pieces_comma (unquoted_plainText p.x) (unquoted_plainText p.y)]
  simp only [hread.read_plainText]
  rfl

theorem lineFeed_not_mem_tableLines (points : List Point) :
    ∀ line ∈ tableLines points, '\n' ∉ line.toList := by
  have hbare : ∀ x : Binary64, '\n' ∉ x.plainText.toList := fun x hc =>
    unquoted_plainText x '\n' hc (by decide)
  intro line hline
  rcases List.mem_cons.mp hline with rfl | hline
  · decide
  · obtain ⟨p, -, rfl⟩ := List.mem_map.mp hline
    simp only [String.toList_append, List.mem_append, not_or]
    exact ⟨⟨hbare p.x, by decide⟩, hbare p.y⟩

theorem ofCsv?_toCsv {read : List Char → Option Binary64} (hread : Binary64.RoundsCorrectly read)
    (points : List Point) : ofCsv? read (toCsv points) = some points := by
  have hpieces := Text.pieces_ofLines (lineFeed_not_mem_tableLines points)
  rw [tableLines, List.map_cons, List.map_map, List.cons_append] at hpieces
  rw [ofCsv?, toCsv_lines, tableLines, hpieces]
  have hrow : pointOf? read ∘ String.toList ∘
      (fun p : Point => p.x.plainText ++ "," ++ p.y.plainText) = fun p => pure (id p) :=
    funext fun p => pointOf?_row hread p
  simp only [List.getLast?_concat, List.dropLast_concat, and_self, if_true, List.mapM_map, hrow,
    List.mapM_pure, List.map_id]
  rfl

/-- **An exported table loses nothing.** It is the names of the columns and a line for each point in
turn, with two fields that need no quotes; and a reader of it that rounds correctly has the same
points, down to the signs of zeros and infinities. -/
theorem toCsv_readBack {read : List Char → Option Binary64} (hread : Binary64.RoundsCorrectly read)
    (points : List Point) :
    (∃ rows : List (String × String), rows.length = points.length ∧
      (∀ row ∈ rows, Text.Unquoted row.1 ∧ Text.Unquoted row.2) ∧
      toCsv points = Text.ofLines ("x,y" :: rows.map fun row => row.1 ++ "," ++ row.2)) ∧
    ofCsv? read (toCsv points) = some points := by
  refine ⟨⟨points.map fun p => (p.x.plainText, p.y.plainText), List.length_map _, ?_, ?_⟩,
    ofCsv?_toCsv hread points⟩
  · intro row hrow
    obtain ⟨p, -, rfl⟩ := List.mem_map.mp hrow
    exact ⟨unquoted_plainText p.x, unquoted_plainText p.y⟩
  · rw [toCsv_lines, tableLines, List.map_map]
    rfl

/-- The negative zero, an infinity, NaN and the least positive number come back. -/
theorem toCsv_readBack_extremes :
    Binary64.RoundsCorrectly Binary64.ofText? ∧
      ofCsv? Binary64.ofText? (toCsv [⟨.signedZero true, .infinite true⟩, ⟨.nan, .ofBits 1⟩]) =
        some [⟨.signedZero true, .infinite true⟩, ⟨.nan, .ofBits 1⟩] :=
  ⟨Binary64.roundsCorrectly_ofText?, (toCsv_readBack Binary64.roundsCorrectly_ofText? _).2⟩

end Curve
end WorkedEquations
