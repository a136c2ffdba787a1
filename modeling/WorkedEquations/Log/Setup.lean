/-
How a log is set up: what it lets through, and the file it is kept in. The
file is named for a moment and may fail to come about.
-/
import WorkedEquations.Files
import WorkedEquations.Log.Severity

namespace WorkedEquations
namespace Log

/-- A mark in the name of a moment. -/
def isMomentMark (c : Char) : Bool := c.isDigit || c = '-' || c = '_'

/-- A moment as it goes into the name of a file: day and time in digits, and what parts them. -/
structure Moment where
  text : String
  plain : text.toList.all isMomentMark = true
  short : text.utf8ByteSize ≤ 64
deriving DecidableEq

/-- The moment that clocks count from. -/
def Moment.epoch : Moment := ⟨"1970-01-01_00-00-00", by decide, by decide⟩

/-- A log that has been set up: its threshold, and the name of its file if it keeps one. -/
structure Setup where
  threshold : Threshold
  file : Option String
deriving DecidableEq

/-- The file that is named for a moment. -/
def fileName (moment : String) : String := s!"log_{moment}.txt"

/-- A log as a level asks for it. A log that lets nothing through keeps no file. -/
def Setup.ofLevel (level : String) (toFile : Bool) (moment : String) :
    Except UnknownLevel Setup :=
  (Threshold.ofName level).map fun threshold =>
    ⟨threshold, if toFile && threshold.isSome then some (fileName moment) else none⟩

/-- What a log meets where it is set up: the moment, and what keeps a file from being made there,
if something does. -/
structure Site where
  moment : Moment
  obstacle? : Option Files.Fault
deriving DecidableEq

/-- A site where files can be made. -/
def Site.clear (moment : Moment) : Site := ⟨moment, none⟩

/-- Why there is no log. -/
inductive Fault where
  | unknownLevel (e : UnknownLevel)
  | noFile (name : String) (fault : Files.Fault)
deriving DecidableEq

def Fault.message : Fault → String
  | unknownLevel e => e.message
  | noFile name fault => s!"cannot create {name}: {fault.message}"

/-- Set a log up at a site. A log whose file cannot be made is not set up at all. -/
def Setup.ofSite (level : String) (toFile : Bool) (site : Site) : Except Fault Setup := do
  let setup ← (ofLevel level toFile site.moment.text).mapError .unknownLevel
  match setup.file, site.obstacle? with
  | some name, some fault => throw (.noFile name fault)
  | _, _ => return setup

end Log
end WorkedEquations
