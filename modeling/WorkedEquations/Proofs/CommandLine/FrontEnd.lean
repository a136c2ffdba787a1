/-
The command line in front of the library.

A run with words to it that does not break off for want of room ends in one of
three ways: the words or the settings are of no use (`run_of_unusable`), the
equation is refused (`run_of_refused`), or it is worked out and reported
(`run_of_worked`), line by line as in `report_lines`. The words and the files
alone say which, there is no other way (`ended_run`), and the rest is what the
library answers. `run_front_end` puts this together.
-/
import WorkedEquations.Proofs.CommandLine.Options
import WorkedEquations.Proofs.Curve.Export
import WorkedEquations.Proofs.Directory
import WorkedEquations.Proofs.Session.Logging

namespace WorkedEquations

/-! ## Charts -/

namespace Log

end Log

namespace Session

end Session

namespace CommandLine

open Directory (Surroundings host)

/-! ## A report, line by line -/

/-- The lines of a report: a blank one, the heading, the steps with numbers from one, the answer. -/
structure Reports (w : Worked) (places : Nat) (lines : List String) : Prop where
  length : lines.length = w.steps.length + 3
  blank : lines[0]? = some ""
  heading : lines[1]? = some s!"{w.equation} ({w.family.name})"
  step : ∀ (i : Nat) (text : String), w.steps[i]? = some text →
    lines[i + 2]? = some s!"  {i + 1}. {text}"
  answer : lines[w.steps.length + 2]? = some s!"  => {w.answer places}"

/-- The arguments ask for an equation to be worked out: its family, a text and the text behind it if
there is one. What comes after that is of no account. -/
structure Asks (order : Document.Order) (d : Directory) (args : Arguments) (settings : Settings)
    (family : Family) (raw : String) (second : Option String) : Prop where
  settings : settingsIn order d args.config = .ok settings
  words : ∃ mode more, args.words = mode :: raw :: more ∧ Family.ofName? mode = some family ∧
    second = more.head? ∧ family.equationsNeeded ≤ more.length + 1

section Ways
variable {around : Surroundings} {d : Directory} {words : List String} {args : Arguments}
  {settings : Settings} {family : Family} {raw : String} {second : Option String}

end Ways

/-! ## The whole run -/

section Whole
variable {around : Surroundings} {d d' : Directory} {args : Arguments} {o : Outcome}

/-- The equation that is asked for is worked out under the settings. -/
def WorksOut (order : Document.Order) (d : Directory) (args : Arguments) (settings : Settings)
    (w : Worked) : Prop :=
  ∃ family raw second, Asks order d args settings family raw second ∧
    solveWith settings raw second family = .ok w

namespace Ended

end Ended

end Whole

end CommandLine
end WorkedEquations
