/-
What is logged: events of a session, each with its severity and wording.
-/
import WorkedEquations.Log.Severity
import WorkedEquations.Solution.Worked

namespace WorkedEquations
namespace Log

inductive Entry where
  /-- The log is kept in a file. -/
  | loggingInto (file : String)
  /-- A second text came with a family that has one. -/
  | secondIgnored (family : Family)
  | classified (text : String) (e : Equation)
  /-- A text of a family with one equation was refused. -/
  | notClassified (r : Refusal)
  | solved (family : Family) (d : Derivation)
  /-- An answer went into the history. -/
  | recorded (equation answer : String)
  | refused (r : Refusal)
  | statistics (table : String)
deriving DecidableEq

namespace Entry

def severity : Entry → Severity
  | loggingInto _ => .info
  | secondIgnored _ => .debug
  | classified .. => .debug
  | notClassified _ => .warn
  | solved .. => .info
  | recorded .. => .info
  | refused _ => .warn
  | statistics _ => .info

def message : Entry → String
  | loggingInto file => s!"logging into {file}"
  | secondIgnored family => s!"second equation ignored in {family.name} mode"
  | classified text e => s!"classified '{text}' as {e.description}"
  | notClassified r => s!"classification failed: {r.message}"
  | solved family d =>
    s!"{family.name} equation solved: {d.solution.label} in {d.steps.length} steps"
  | recorded equation answer => s!"{equation}: {answer}"
  | refused r => r.message
  | statistics table => s!"\n \n SESSION STATISTICS \n \n {table}"

/-- The entry as a line: severity and message. -/
def line (e : Entry) : String := e.severity.label ++ " " ++ e.message

end Entry

/-- What is noted while a raw text is worked out, before anything is left out. The two texts of a
system are not noted when they are read. -/
def entriesOfSolving (raw : String) (second : Option String) (family : Family) : List Entry :=
  let texts := Worked.canonical raw second family
  let outcome := Worked.classified texts family
  let ignored :=
    if second.isSome && family != .system then [Entry.secondIgnored family] else []
  let reading :=
    match texts.2, outcome with
    | some _, _ => []
    | none, .ok e => [Entry.classified texts.1 e]
    | none, .error r => [Entry.notClassified r]
  let solving :=
    match outcome with
    | .ok e => [Entry.solved e.family e.derive]
    | .error _ => []
  ignored ++ reading ++ solving

/-- The entries that a threshold lets through. -/
def filtered (threshold : Threshold) (entries : List Entry) : List Entry :=
  entries.filter fun e => threshold.admits e.severity

end Log
end WorkedEquations
