/-
Records of fields as comma separated lines.

A field is written as it is unless a character of it would end it early or
pass for a quote. Then it stands between double quotes.
-/

namespace WorkedEquations
namespace Text

/-- The characters that a field has between quotes only: what ends fields and records, and the
quote itself. -/
def recordMarks : List Char := [',', '"', '\r', '\n']

/-- The field between quotes, each quote in it written twice. -/
def quotedField (field : String) : String :=
  String.ofList ('"' :: field.toList.flatMap (fun c => if c = '"' then [c, c] else [c]) ++ ['"'])

/-- A field as it stands in a record. -/
def recordField (field : String) : String :=
  if field.toList.any recordMarks.contains then quotedField field else field

/-- The fields of a record with commas between them, and a line feed at the end. A record that
would be an empty line is a pair of quotes. -/
def record (fields : List String) : String :=
  let line := ",".intercalate (fields.map recordField)
  (if line.isEmpty then quotedField line else line) ++ "\n"

end Text
end WorkedEquations
