/-
The program: the command line on the system it runs on.
-/
import WorkedEquations.CommandLine

namespace WorkedEquations

/-- What a failure of the system means here. A directory in place of a file has the number 21,
of either sign. -/
def faultOfError (path : String) : IO.Error → Files.Fault
  | .noFileOrDirectory .. => .missing
  | .inappropriateType _ code _ =>
    if code = 21 ∨ code = 0 - 21 then .isDirectory else .notDirectory
  | .invalidArgument .. => if path.toList.contains '\x00' then .badName else .nameTooLong
  | e => .other (toString e)

/-- The moment that a day and a time name. -/
def momentOf? (day time : List Char) : Option Log.Moment :=
  let text := String.ofList (day ++ '_' :: time.map fun c => if c = ':' then '-' else c)
  if h : text.toList.all Log.isMomentMark = true ∧ text.utf8ByteSize ≤ 64 then
    some ⟨text, h.1, h.2⟩
  else none

/-- The moment that the clock of the machine tells, if it can be asked. -/
def systemMoment : IO Log.Moment := do
  try
    let day ← IO.FS.readFile "/sys/class/rtc/rtc0/date"
    let time ← IO.FS.readFile "/sys/class/rtc/rtc0/time"
    return (momentOf? (Text.trim day.toList) (Text.trim time.toList)).getD .epoch
  catch _ => return .epoch

/-- The system as a host. There is nothing on it to draw charts with. -/
def systemHost (moment : IO Log.Moment) : Host IO where
  read path := do
    try return .ok (← IO.FS.readBinFile path)
    catch e => return .error (faultOfError path e)
  write path content := do
    try
      IO.FS.writeFile path content
      return .ok ()
    catch e => return .error (faultOfError path e)
  moment := moment
  room := Directory.Surroundings.bare.room
  order := .asWritten
  breakdown := Directory.Surroundings.bare.breakdown
  draw _ _ := return .error "charts cannot be drawn here"

end WorkedEquations

open WorkedEquations in
def main (args : List String) : IO UInt32 := do
  let outcome ← CommandLine.run (systemHost systemMoment) args
  for entry in outcome.log do
    IO.eprintln entry.line
  IO.print outcome.stdout
  IO.eprint outcome.stderr
  return outcome.code.toUInt32
