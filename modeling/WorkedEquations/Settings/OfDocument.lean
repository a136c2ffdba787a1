/-
Settings from a document: a key for each setting below one of three titles,
what is missing at its default.
-/
import WorkedEquations.Document.Parser
import WorkedEquations.Files
import WorkedEquations.Settings.Basic

namespace WorkedEquations
namespace Settings

/-- Why a document gives no settings. -/
inductive Fault where
  | unreadable (path : String) (fault : Files.Fault)
  | notADocument (fault : Document.Fault)
  | unknownTitle (title : String)
  | unknownKey (title key : String)
  /-- A key came with no value or with several. -/
  | valueCount (title key : String) (count : Nat)
  | badValue (key : String) (value : Document.Value)
  | invalid (fault : Invalid)
deriving DecidableEq

def Fault.message : Fault → String
  | unreadable path fault => s!"cannot read {path}: {fault.message}"
  | notADocument fault => fault.message
  | unknownTitle title => s!"unknown section '{title}'"
  | unknownKey title key => s!"unknown key '{key}' in section '{title}'"
  | valueCount title key count =>
    s!"'{key}' in section '{title}' expects one value, got {count}"
  | badValue key value => s!"invalid value '{value.display}' for '{key}'"
  | invalid fault => fault.message

/-- The titles and the keys below them. -/
def knownKeys : List (String × List String) :=
  [("solver", ["loglevel", "log_to_file", "precision"]),
    ("plot", ["half_width", "step"]),
    ("history", ["capacity"])]

/-- The title, or the first key below it, that is not known. -/
def unknownAt? (d : Document) (keys : Document.Walk) (title : String) : Option Fault :=
  match knownKeys.lookup title with
  | none => some (.unknownTitle title)
  | some known =>
    ((keys.list (d.keys title)).find? fun key => !known.contains key).map (.unknownKey title)

/-- The first title or key that is not known, in the order they are gone through. -/
def unknown? (d : Document) (order : Document.Order) : Option Fault :=
  (order.titles.list d.titles).findSome? fun title => unknownAt? d (order.keys title) title

/-- The one value of a key, if the key is there. -/
def value? (d : Document) (title key : String) : Except Fault (Option Document.Value) :=
  match d.values? title key with
  | none => .ok none
  | some [v] => .ok (some v)
  | some vs => .error (.valueCount title key vs.length)

/-- A setting: what a key says, or what holds without it. -/
def setting (d : Document) (title key : String) (read : Document.Value → Option α) (fallback : α) :
    Except Fault α := do
  match ← value? d title key with
  | none => return fallback
  | some v =>
    match read v with
    | some x => return x
    | none => throw (.badValue key v)

/-- A whole number that is not negative. -/
def natOf? (v : Document.Value) : Option Nat := v.toInteger?.bind Int.toNat?

/-- The settings a document gives, valid or not. -/
def read (d : Document) (order : Document.Order) : Except Fault Settings := do
  if let some fault := unknown? d order then throw fault
  let base := Settings.default
  let logLevel ← setting d "solver" "loglevel" (fun v => some (Text.lower v.display)) base.logLevel
  let logToFile ← setting d "solver" "log_to_file" Document.Value.toBoolean? base.logToFile
  let precision ← setting d "solver" "precision" natOf? base.precision
  let halfWidth ← setting d "plot" "half_width" Document.Value.toFloat? base.window.halfWidth
  let step ← setting d "plot" "step" Document.Value.toFloat? base.window.step
  let historyCapacity ← setting d "history" "capacity" natOf? base.historyCapacity
  return { precision, historyCapacity, window := ⟨halfWidth, step⟩, logLevel, logToFile }

/-- The settings a text gives. A text without content gives the defaults. -/
def ofText (input : String) (order : Document.Order := .asWritten) : Except Fault Settings :=
  if (Text.trim (Document.contentOf input.toList)).isEmpty then .ok .default
  else do
    let document ← (Document.parse input).mapError .notADocument
    let settings ← read document order
    settings.check.mapError .invalid

/-- The settings a file gives. -/
def ofFile (path : String) (content : Except Files.Fault ByteArray)
    (order : Document.Order := .asWritten) : Except Fault Settings :=
  match content.bind Files.decode with
  | .error fault => .error (.unreadable path fault)
  | .ok text => ofText text order

end Settings
end WorkedEquations
