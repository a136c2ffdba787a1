/-
Reading a document from a text.

Lines that are blank or start with a comment mark are left out first. Then a
document is one or more sections, a section a title and one or more entries,
an entry a key, a colon and tokens with commas between them. Nothing but what
follows tells a key from a title: a name is a key if a colon follows on its
line.
-/
import WorkedEquations.Document.Basic
import WorkedEquations.Text.Lines
import WorkedEquations.Text.Quoted

namespace WorkedEquations
namespace Document

/-! ## Lines -/

/-- The line holds something other than a comment. -/
def isContent (line : List Char) : Bool :=
  match Text.trim line with
  | [] => false
  | '/' :: '/' :: _ => false
  | '#' :: _ => false
  | '%' :: _ => false
  | ';' :: _ => false
  | _ => true

/-- The text without blank lines and comments. -/
def contentOf (cs : List Char) : List Char := Text.join '\n' ((Text.lines cs).filter isContent)

/-! ## Pieces -/

/-- A blank within a line. -/
def isLineBlank (c : Char) : Bool := c == ' ' || c == '\t'

/-- A blank or the end of a line. -/
def isLayoutBlank (c : Char) : Bool := isLineBlank c || c == '\r' || c == '\n'

def skipLineBlanks (cs : List Char) : List Char := cs.dropWhile isLineBlank

def skipLayoutBlanks (cs : List Char) : List Char := cs.dropWhile isLayoutBlank

/-- A name starts with an ASCII letter or an underscore. -/
def startsName (c : Char) : Bool := c.isAlpha || c == '_'

/-- A name goes on with ASCII letters, digits and underscores. -/
def continuesName (c : Char) : Bool := c.isAlphanum || c == '_'

/-- A character of a token. -/
def isTokenChar (c : Char) : Bool := !(isLayoutBlank c || c == ',' || c == ';')

/-- A name and the rest, or where the name should have been. -/
def readName (cs : List Char) : Except (List Char) (String × List Char) :=
  match cs with
  | [] => .error []
  | c :: rest =>
    if startsName c then
      .ok (String.ofList (c :: rest.takeWhile continuesName), rest.dropWhile continuesName)
    else .error (c :: rest)

/-- A value and the rest, if a token stands at the start. -/
def readValue? (cs : List Char) : Option (Value × List Char) :=
  match cs.takeWhile isTokenChar with
  | [] => none
  | token => some (Value.ofToken token, cs.dropWhile isTokenChar)

/-- The values that follow commas, and the rest. A comma without a token after it is left. -/
def moreValues (cs : List Char) : List Value × List Char :=
  match skipLineBlanks cs with
  | ',' :: rest =>
    match readValue? (skipLineBlanks rest) with
    | some (v, after) =>
      if after.length < cs.length then
        let (vs, after) := moreValues after
        (v :: vs, after)
      else ([], cs)
    | none => ([], cs)
  | _ => ([], cs)
termination_by cs.length

/-- A list of values, perhaps none, and the rest. -/
def readValues (cs : List Char) : List Value × List Char :=
  match readValue? cs with
  | none => ([], cs)
  | some (v, rest) =>
    let (vs, rest) := moreValues rest
    (v :: vs, rest)

/-- A key, a colon and values, and the rest without white space at its ends; or where a piece
should have been. -/
def readEntry (cs : List Char) : Except (List Char) (Entry × List Char) := do
  let (key, rest) ← readName cs
  match skipLineBlanks rest with
  | ':' :: rest =>
    let (values, rest) := readValues (skipLineBlanks rest)
    return (⟨key, values⟩, Text.trim rest)
  | rest => .error rest

/-- As many entries as follow, and the rest. -/
def moreEntries (cs : List Char) : List Entry × List Char :=
  match readEntry cs with
  | .error _ => ([], cs)
  | .ok (e, rest) =>
    if (skipLineBlanks rest).length < cs.length then
      let (es, rest) := moreEntries (skipLineBlanks rest)
      (e :: es, rest)
    else ([], cs)
termination_by cs.length

/-- A title and one or more entries, and the rest; or where a piece should have been. -/
def readSection (cs : List Char) : Except (List Char) (Section × List Char) := do
  let (title, rest) ← readName (skipLineBlanks cs)
  let (first, rest) ← readEntry (skipLayoutBlanks (Text.trim rest))
  let (others, rest) := moreEntries (skipLineBlanks rest)
  return (⟨title, first :: others⟩, rest)

/-- As many sections as follow, and the rest. -/
def moreSections (cs : List Char) : List Section × List Char :=
  match readSection (skipLineBlanks cs) with
  | .error _ => ([], cs)
  | .ok (s, rest) =>
    if (skipLayoutBlanks rest).length < cs.length then
      let (ss, rest) := moreSections (skipLayoutBlanks rest)
      (s :: ss, rest)
    else ([], cs)
termination_by cs.length

/-! ## Documents -/

/-- Why a text is not a document. -/
inductive Fault where
  /-- The first section breaks off where this stands. -/
  | broken (rest : String)
  /-- Sections were read, but this is left over. -/
  | leftOver (rest : String)
deriving DecidableEq

def Fault.message : Fault → String
  | broken rest =>
    "Parsing error: Error(Error \x7b input: " ++ Text.quoted rest ++ ", code: Tag \x7d)"
  | leftOver rest => s!"Failed to parse entire document. Remaining: '{rest}'"

/-- The document a text writes. -/
def parse (input : String) : Except Fault Document :=
  match readSection (skipLineBlanks (contentOf input.toList)) with
  | .error rest => .error (.broken (String.ofList rest))
  | .ok (first, rest) =>
    let (others, rest) := moreSections (skipLayoutBlanks rest)
    if (Text.trim rest).isEmpty then .ok ⟨first :: others⟩
    else .error (.leftOver (String.ofList rest))

end Document
end WorkedEquations
