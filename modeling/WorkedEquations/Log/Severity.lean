/-
How serious a log message is, and the least serious one that is let through.
-/
import WorkedEquations.Text.LowerCase

namespace WorkedEquations
namespace Log

inductive Severity where
  | debug
  | info
  | warn
  | error
deriving DecidableEq, Repr

namespace Severity

def rank : Severity → Nat
  | debug => 0
  | info => 1
  | warn => 2
  | error => 3

def label : Severity → String
  | debug => "DEBUG"
  | info => "INFO"
  | warn => "WARN"
  | error => "ERROR"

end Severity

/-- What is let through: messages of a severity and above, or nothing. -/
abbrev Threshold := Option Severity

/-- A message of this severity is let through. -/
def Threshold.admits (threshold : Threshold) (s : Severity) : Bool :=
  threshold.any fun least => decide (least.rank ≤ s.rank)

/-- The names of the levels that settings may hold. -/
def levelNames : List String := ["debug", "info", "warn", "error", "off", "none"]

/-- A text that names no level, in lower case. -/
structure UnknownLevel where
  name : String
deriving DecidableEq

def UnknownLevel.message (e : UnknownLevel) : String :=
  s!"loglevel must be debug, info, warn, error or off, got '{e.name}'"

/-- The threshold a level names, in any case. -/
def Threshold.ofName (name : String) : Except UnknownLevel Threshold :=
  match Text.lower name with
  | "off" | "none" => .ok none
  | "debug" => .ok (some .debug)
  | "info" => .ok (some .info)
  | "warn" => .ok (some .warn)
  | "error" => .ok (some .error)
  | other => .error ⟨other⟩

end Log
end WorkedEquations
