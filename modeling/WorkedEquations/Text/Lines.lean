/-
Cutting a text at a character, into lines, and putting lines together.
-/

namespace WorkedEquations
namespace Text

/-- The pieces of a text between the occurrences of a character: one more than there are
occurrences. -/
def pieces (separator : Char) : List Char → List (List Char)
  | [] => [[]]
  | c :: rest =>
    if c = separator then [] :: pieces separator rest
    else
      match pieces separator rest with
      | [] => [[c]]
      | piece :: others => (c :: piece) :: others

/-- A line without the carriage return at its end. -/
def dropReturn (line : List Char) : List Char :=
  if line.getLast? = some '\r' then line.dropLast else line

/-- The lines among the pieces between line feeds. What follows the last line feed is a line only
if it is not empty, and keeps a carriage return. -/
def linesOfPieces : List (List Char) → List (List Char)
  | [] => []
  | [last] => if last.isEmpty then [] else [last]
  | line :: rest => dropReturn line :: linesOfPieces rest

/-- The lines of a text, ended by a line feed or by a carriage return and a line feed. -/
def lines (cs : List Char) : List (List Char) := linesOfPieces (pieces '\n' cs)

/-- The pieces with a character between them. -/
def join (separator : Char) (parts : List (List Char)) : List Char := [separator].intercalate parts

end Text
end WorkedEquations
