/-
The command line: options, then the name of a family and its texts, or
nothing for a demonstration.
-/
import WorkedEquations.Curve.Export
import WorkedEquations.Host
import WorkedEquations.Session
import WorkedEquations.Settings.OfDocument

namespace WorkedEquations
namespace CommandLine

def usage : String :=
  "usage: RustedEquationSolver [--config FILE] [--plot FILE.png] [--csv FILE.csv] " ++
    "<linear|quadratic|system> <equation> [second equation]"

/-- An option with the word after it, taken out of the words; the first of several. An option at
the very end has no value and is taken out all the same. -/
def takeOption (name : String) : List String → Option String × List String
  | [] => (none, [])
  | word :: rest =>
    if word = name then (rest.head?, rest.drop 1)
    else
      let (value, others) := takeOption name rest
      (value, word :: others)

/-- The options and the words that are left. -/
structure Arguments where
  config : Option String
  plot : Option String
  csv : Option String
  words : List String
deriving DecidableEq

/-- The arguments in a list of words. -/
def Arguments.ofWords (words : List String) : Arguments :=
  let (config, words) := takeOption "--config" words
  let (plot, words) := takeOption "--plot" words
  let (csv, words) := takeOption "--csv" words
  { config, plot, csv, words }

/-- What a run leaves behind, apart from files. -/
structure Outcome where
  code : Nat
  stdout : String
  stderr : String
  log : List Log.Entry
  /-- The run broke off. -/
  broken : Bool := false
deriving DecidableEq

/-- A run that ends with a message. -/
def failure (code : Nat) (message : String) : Outcome :=
  { code, stdout := "", stderr := message ++ "\n", log := [] }

/-- A run that breaks off. -/
def breakOff (breakdown : Breakdown) : Outcome :=
  { code := breakdown.code, stdout := "", stderr := breakdown.message, log := [], broken := true }

/-- Numbered lines. -/
def numbered (steps : List String) : String :=
  String.join ((List.range steps.length).zipWith (fun i step => s!"  {i + 1}. {step}\n") steps)

/-- A worked equation as it is printed: a heading, the steps, the answer. -/
def report (w : Worked) (places : Nat) : String :=
  s!"\n{w.equation} ({w.family.name})\n" ++ numbered w.steps ++ s!"  => {w.answer places}\n"

/-! ## Demonstration -/

/-- The equations of the demonstration. -/
def demoEquations : List (String × Option String × Family) :=
  [("2x+5=11", none, .linear), ("-x+10=5", none, .linear), ("0x+5=5", none, .linear),
    ("x^2-4x+3=0", none, .quadratic), ("x^2+2x+1=0", none, .quadratic),
    ("x^2+1=0", none, .quadratic), ("2x+3y=7", some "x-y=1", .system),
    ("2x+3y=7", some "4x+6y=9", .system)]

/-- Solve equations one after the other, adding to what has been printed and logged. -/
def demoFrom (places : Nat) : Session → List (String × Option String × Family) →
    Session × String × List Log.Entry
  | s, [] => (s, "", [])
  | s, (raw, second, family) :: rest =>
    let o := s.solve raw second family
    let shown :=
      match o.result with
      | .ok w => report w places
      | .error r => s!"\n{r.message}\n"
    let (s, printed, log) := demoFrom places o.session rest
    (s, o.printed ++ shown ++ printed, o.log ++ log)

/-- The demonstration, with the history and the tallies at its end. -/
def demo (s : Session) : Outcome :=
  let (s, printed, log) := demoFrom s.settings.precision s demoEquations
  let statistics := s.statisticsTable
  { code := 0
    stdout := printed ++ s!"\n{s.history.table}\n" ++ s!"{statistics.result}\n"
    stderr := ""
    log := log ++ statistics.log }

/-! ## Solving -/

/-- The session with what its log meets. A log that is kept in a file has it made, with nothing in
it; the lines that go into it tell the time and are left to what shows the log. -/
def prepareLog [Monad m] (host : Host m) (s : Session) : m Session := do
  let moment ← host.moment
  match Log.Setup.ofLevel s.settings.logLevel s.settings.logToFile moment.text with
  | .ok ⟨_, some file⟩ =>
    match ← host.write file "" with
    | .ok () => return { s with site := .clear moment }
    | .error fault => return { s with site := ⟨moment, some fault⟩ }
  | _ => return { s with site := .clear moment }

/-- Write the samples where an option asks for it; the complaint if that fails. -/
def saveSamples [Monad m] (host : Host m) (points : List Point) (path : String) : m String := do
  match ← host.write path (Curve.toCsv points) with
  | .ok () => return ""
  | .error fault => return s!"cannot save {path}: {fault.message}\n"

/-- Draw a chart of the samples, with the values of the unknown marked, where an option asks for it;
the complaint if that fails. -/
def drawSamples [Monad m] (host : Host m) (w : Worked) (points : List Point) (path : String) :
    m String := do
  match ← Curve.plot host.draw points w.solution.toList w.equation path with
  | .ok () => return ""
  | .error fault => return s!"cannot plot {path}: {fault.message}\n"

/-- What is made of an answer: it is printed, and its samples are saved and drawn where an option
asks for that. -/
def present [Monad m] (host : Host m) (args : Arguments) (places : Nat)
    (o : Session.Outcome (Except Refusal Worked)) : m Outcome := do
  match o.result with
  | .error r => return { failure 1 r.message with stdout := o.printed, log := o.log }
  | .ok w =>
    let saved ←
      match w.plot, args.csv with
      | some points, some path => saveSamples host points path
      | _, _ => pure ""
    let plotted ←
      match w.plot, args.plot with
      | some points, some path => drawSamples host w points path
      | _, _ => pure ""
    return {
      code := 0
      stdout := o.printed ++ report w places
      stderr := saved ++ plotted
      log := o.log }

/-- Solve one equation and print it. -/
def solveAndReport [Monad m] (host : Host m) (s : Session) (args : Arguments)
    (raw : String) (second : Option String) (family : Family) : m Outcome := do
  let s ← prepareLog host s
  present host args s.settings.precision (s.solve raw second family)

/-- What the words ask for in a session. -/
def runWith [Monad m] (host : Host m) (s : Session) (args : Arguments) : m Outcome :=
  match args.words with
  | [] => return demo (← prepareLog host s)
  | mode :: texts =>
    match Family.ofName? mode with
    | none => return failure 2 usage
    | some family =>
      if texts.length < family.equationsNeeded then
        return failure 2
          s!"{family.name} mode needs {family.equationsNeeded} equation(s)\n{usage}"
      else solveAndReport host s args (texts.headD "") texts[1]? family

/-- The settings an option asks for. -/
def settingsFor [Monad m] (host : Host m) : Option String → m (Except Settings.Fault Settings)
  | none => return .ok .default
  | some path => return Settings.ofFile path (← host.read path) host.order

/-- Run the program on the words of a command line. There is a session before the words are looked
at, so without room for its history nothing is done. -/
def run [Monad m] (host : Host m) (words : List String) : m Outcome := do
  let args := Arguments.ofWords words
  match ← settingsFor host args.config with
  | .error fault => return failure 2 fault.message
  | .ok settings =>
    match Session.ofSettings? host.room settings with
    | none => return breakOff host.breakdown
    | some s => runWith host s args

end CommandLine
end WorkedEquations
