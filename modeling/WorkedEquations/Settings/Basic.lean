/-
Settings of a session, and which of them are valid.
-/
import WorkedEquations.Curve.Window
import WorkedEquations.Decimal.Layout
import WorkedEquations.Display.Number
import WorkedEquations.Log.Severity
import WorkedEquations.Text.Quoted

namespace WorkedEquations

structure Settings where
  /-- Places of every shown number. -/
  precision : Nat
  historyCapacity : Nat
  window : Window
  logLevel : String
  logToFile : Bool
deriving DecidableEq

namespace Settings

def default : Settings :=
  { precision := Display.defaultPlaces
    historyCapacity := 10
    window := .default
    logLevel := "info"
    logToFile := false }

instance : Inhabited Settings := ⟨default⟩

/-- The most places a number may be shown with. -/
def maxPrecision : Nat := 12

/-- What is wrong with settings. -/
inductive Invalid where
  | precision (got : Nat)
  | historyCapacity
  | halfWidth (got : Binary64)
  | step (got : Binary64)
  | tooManyIntervals (window : Window)
  | logLevel (got : String)
deriving DecidableEq

def Invalid.message : Invalid → String
  | precision got => s!"precision must be at most {maxPrecision}, got {got}"
  | historyCapacity => "history capacity must be at least 1"
  | halfWidth got => s!"plot half_width must be positive, got {got.plainText}"
  | step got => s!"plot step must be in (0, half_width], got {got.plainText}"
  | tooManyIntervals w =>
    s!"plot window of half_width {w.halfWidth.plainText} with step {w.step.plainText}" ++
      s!" needs more than {Window.maxIntervals} intervals"
  | logLevel got =>
    "loglevel must be one of [" ++ ", ".intercalate (Log.levelNames.map Text.quoted) ++
      s!"], got '{got}'"

/-- The first thing that is wrong with the settings, if something is. -/
def invalid? (s : Settings) : Option Invalid :=
  if maxPrecision < s.precision then some (.precision s.precision)
  else if s.historyCapacity < 1 then some .historyCapacity
  else if ¬(0 < s.window.halfWidth ∧ s.window.halfWidth.isFinite) then
    some (.halfWidth s.window.halfWidth)
  else if ¬(0 < s.window.step ∧ s.window.step ≤ s.window.halfWidth) then
    some (.step s.window.step)
  else if s.window.intervals?.isNone then some (.tooManyIntervals s.window)
  else if ¬s.logLevel ∈ Log.levelNames then some (.logLevel s.logLevel)
  else none

/-- The settings, if they are valid. -/
def check (s : Settings) : Except Invalid Settings :=
  match s.invalid? with
  | some fault => .error fault
  | none => .ok s

/-- The settings with another level, in lower case, and another precision, where they are given;
valid as a whole or not changed at all. -/
def adjust (s : Settings) (logLevel : Option String) (precision : Option Nat) :
    Except Invalid Settings :=
  check
    { s with
      logLevel := (logLevel.map Text.lower).getD s.logLevel
      precision := precision.getD s.precision }

end Settings
end WorkedEquations
