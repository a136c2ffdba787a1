/-
A settings document: titled sections of keys with lists of values. A title
may come back, and a key may; the last occurrence of a key counts.
-/
import WorkedEquations.Document.Value

namespace WorkedEquations
namespace Document

/-- A key with its values. -/
structure Entry where
  key : String
  values : List Value
deriving DecidableEq

/-- A title with the entries below it, as they stand in the document. -/
structure Section where
  title : String
  entries : List Entry
deriving DecidableEq

end Document

/-- The sections of a document in the order they stand in. -/
structure Document where
  sections : List Document.Section
deriving DecidableEq

namespace Document

/-- All entries below a title, in order. -/
def entriesOf (d : Document) (title : String) : List Entry :=
  (d.sections.filter (·.title == title)).flatMap (·.entries)

/-- The values of a key below a title: those of its last occurrence. -/
def values? (d : Document) (title key : String) : Option (List Value) :=
  ((d.entriesOf title).reverse.find? (·.key == key)).map (·.values)

/-- The titles, each once. -/
def titles (d : Document) : List String := (d.sections.map (·.title)).eraseDups

/-- The keys below a title, each once. -/
def keys (d : Document) (title : String) : List String :=
  ((d.entriesOf title).map (·.key)).eraseDups

/-- The document as a table of tables: every title, below it every key, with its values. -/
def table (d : Document) : List (String × List (String × List Value)) :=
  d.titles.map fun title =>
    (title, (d.keys title).map fun key => (key, (d.values? title key).getD []))

/-! ## Going through the names -/

/-- A way to go through names: each as often as it is there, in some order. -/
structure Walk where
  list : List String → List String
  perm (names : List String) : (list names).Perm names

/-- The names in the order they stand in. -/
def Walk.asWritten : Walk := ⟨id, fun _ => .refl _⟩

/-- How the names of a document are gone through, the titles and below each title the keys. A table
of tables has no order of its own. -/
structure Order where
  titles : Walk
  keys : String → Walk

def Order.asWritten : Order := ⟨.asWritten, fun _ => .asWritten⟩

end Document
end WorkedEquations
