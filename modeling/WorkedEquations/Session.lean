/-
A session: settings that may change, a bounded history, tallies of outcomes,
and a log that is set up by the first equation that is solved.
-/
import WorkedEquations.History
import WorkedEquations.Log.Entry
import WorkedEquations.Log.Setup

namespace WorkedEquations

/-- How often each outcome occurred. -/
structure Tally where
  linear : Nat := 0
  quadratic : Nat := 0
  system : Nat := 0
  degenerate : Nat := 0
  failures : Nat := 0
deriving DecidableEq

namespace Tally

/-- Solved equations of a family. -/
def solves (t : Tally) : Family → Nat
  | .linear => t.linear
  | .quadratic => t.quadratic
  | .system => t.system

/-- One more worked equation. -/
def countWorked (t : Tally) (w : Worked) : Tally :=
  let t :=
    match w.family with
    | .linear => { t with linear := t.linear + 1 }
    | .quadratic => { t with quadratic := t.quadratic + 1 }
    | .system => { t with system := t.system + 1 }
  if w.solution.isDegenerate then { t with degenerate := t.degenerate + 1 } else t

/-- One more refused text. -/
def countFailure (t : Tally) : Tally := { t with failures := t.failures + 1 }

/-- Counts that are not zero. -/
def present (counts : List (String × Nat)) : List (String × Nat) := counts.filter (·.2 != 0)

/-- Refused texts and degenerate outcomes. -/
def setbacks (t : Tally) : List (String × Nat) :=
  present [("classification failures", t.failures), ("degenerate outcomes", t.degenerate)]

/-- Solved equations by family. -/
def successes (t : Tally) : List (String × Nat) :=
  present
    [("linear solves", t.linear), ("quadratic solves", t.quadratic), ("system solves", t.system)]

/-- The counts by name, in alphabetical order. -/
def toList (t : Tally) : List (String × Nat) := t.setbacks ++ t.successes

/-- The counts and the length of a history, in alphabetical order. -/
def rows (t : Tally) (historyLength : Nat) : List (List String) :=
  (t.setbacks ++ ("history length", historyLength) :: t.successes).map
    fun (name, count) => [name, toString count]

end Tally

structure Session where
  settings : Settings
  history : History
  tally : Tally
  /-- What the log lets through; not settled before the first equation. -/
  threshold : Option Log.Threshold
  /-- What the log meets when it is set up. -/
  site : Log.Site
deriving DecidableEq

namespace Session

/-- A session with nothing done yet, where there is room for its history. -/
def ofSettings (settings : Settings) (site : Log.Site := .clear .epoch) : Session :=
  ⟨settings, .ofCapacity settings.historyCapacity, {}, none, site⟩

/-- The session to start with, if there is room for its history. -/
def ofSettings? (room : Nat → Bool) (settings : Settings) (site : Log.Site := .clear .epoch) :
    Option Session :=
  (History.ofCapacity? room settings.historyCapacity).map fun history =>
    ⟨settings, history, {}, none, site⟩

/-- What one operation of a session comes to: its result, the session after it, what was logged
and what was printed. -/
structure Outcome (α : Type) where
  result : α
  session : Session
  log : List Log.Entry
  printed : String

/-! ## The log -/

/-- What comes of setting up the log, from the settings in force; none if that has been done. -/
def opening? (s : Session) : Option (Except Log.Fault Log.Setup) :=
  match s.threshold with
  | some _ => none
  | none => some (Log.Setup.ofSite s.settings.logLevel s.settings.logToFile s.site)

/-- The session with its log set up. Without a log nothing is let through, and it is not tried
again. -/
def openLog (s : Session) : Session :=
  match s.opening? with
  | none => s
  | some setup => { s with threshold := some (setup.toOption.bind (·.threshold)) }

/-- What is noted when the log is set up. -/
def openingEntries (s : Session) : List Log.Entry :=
  match s.opening? with
  | some (.ok ⟨_, some file⟩) => [.loggingInto file]
  | _ => []

/-- What is printed when the log cannot be set up. -/
def openingNotice (s : Session) : String :=
  match s.opening? with
  | some (.error fault) => s!"logger is not available: {fault.message}\n"
  | _ => ""

/-- The entries that are let through; none before the log is set up. -/
def logged (s : Session) (entries : List Log.Entry) : List Log.Entry :=
  match s.threshold with
  | none => []
  | some threshold => Log.filtered threshold entries

/-! ## Operations -/

/-- Solve an equation. Its text and answer go into the history, or the refusal is counted. -/
def solve (s : Session) (raw : String) (second : Option String) (family : Family) :
    Outcome (Except Refusal Worked) :=
  let opened := s.openLog
  let entries := s.openingEntries ++ Log.entriesOfSolving raw second family
  match solveWith opened.settings raw second family with
  | .ok w =>
    let answer := w.answer opened.settings.precision
    { result := .ok w
      session :=
        { opened with
          history := opened.history.record ⟨w.equation, answer⟩
          tally := opened.tally.countWorked w }
      log := opened.logged (entries ++ [.recorded w.equation answer])
      printed := s.openingNotice }
  | .error r =>
    { result := .error r
      session := { opened with tally := opened.tally.countFailure }
      log := opened.logged (entries ++ [.refused r])
      printed := s.openingNotice }

/-- Change the level and the precision where they are given; both or none. -/
def adjust (s : Session) (logLevel : Option String) (precision : Option Nat) :
    Outcome (Except Settings.Invalid Unit) :=
  match s.settings.adjust logLevel precision with
  | .ok settings => ⟨.ok (), { s with settings }, [], ""⟩
  | .error fault => ⟨.error fault, s, [], ""⟩

/-- Put other settings in force, as they are. The room of the history does not change. -/
def assign (s : Session) (settings : Settings) : Session := { s with settings }

def clearHistory (s : Session) : Session := { s with history := s.history.clear }

/-- The tallies as a table. -/
def statisticsTable (s : Session) : Outcome String :=
  let table := Text.BoxTable.render (s.tally.rows s.history.size)
  ⟨table, s, s.logged [.statistics table], ""⟩

/-! ## Runs -/

/-- What may be asked of a session. -/
inductive Request where
  | solve (raw : String) (second : Option String) (family : Family)
  | adjust (logLevel : Option String) (precision : Option Nat)
  | assign (settings : Settings)
  | clearHistory
  | historyTable
  | statisticsTable
deriving DecidableEq

/-- What a session answers. -/
inductive Reply where
  | worked (outcome : Except Refusal Worked)
  | adjusted (outcome : Except Settings.Invalid Unit)
  | done
  | table (text : String)

/-- Do what is asked. -/
def perform (s : Session) : Request → Outcome Reply
  | .solve raw second family =>
    let o := s.solve raw second family
    ⟨.worked o.result, o.session, o.log, o.printed⟩
  | .adjust logLevel precision =>
    let o := s.adjust logLevel precision
    ⟨.adjusted o.result, o.session, o.log, o.printed⟩
  | .assign settings => ⟨.done, s.assign settings, [], ""⟩
  | .clearHistory => ⟨.done, s.clearHistory, [], ""⟩
  | .historyTable => ⟨.table s.history.table, s, [], ""⟩
  | .statisticsTable =>
    let o := s.statisticsTable
    ⟨.table o.result, o.session, o.log, o.printed⟩

/-- Do all that is asked, in order; an outcome for each request. -/
def run (s : Session) : List Request → List (Outcome Reply)
  | [] => []
  | r :: rest =>
    let o := s.perform r
    o :: run o.session rest

end Session
end WorkedEquations
