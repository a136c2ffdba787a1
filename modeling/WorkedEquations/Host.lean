/-
What a run meets outside itself, and a directory of plain files as a host.
-/
import WorkedEquations.Curve.Chart
import WorkedEquations.Document.Basic
import WorkedEquations.History
import WorkedEquations.Log.Setup

namespace WorkedEquations

/-- How a run that breaks off ends: its code, and what is said. -/
structure Breakdown where
  code : Nat
  message : String
deriving DecidableEq

/-- What a run meets outside itself. Which entries there is room for, in which order names are gone
through and how a run breaks off do not depend on what has been done. -/
structure Host (m : Type → Type) extends Files.Access m where
  /-- The moment it is. -/
  moment : m Log.Moment
  /-- There is room for so many entries of a history. -/
  room : Nat → Bool
  order : Document.Order
  breakdown : Breakdown
  /-- Draw a chart into a file, or say why not. It comes to an end either way. -/
  draw : Curve.Chart → String → m (Except String Unit)

namespace Directory

/-- What there is around a directory: all that a run meets but files. -/
structure Surroundings where
  moment : Log.Moment
  room : Nat → Bool
  order : Document.Order
  breakdown : Breakdown
  draw : Curve.Chart → String → Directory → Except String Unit × Directory

/-- A directory that is carried along, as a host. -/
def host (around : Surroundings) : Host (StateM Directory) where
  read path := fun d => (d.read path, d)
  write path content := fun d =>
    match d.write path content with
    | .ok d' => (.ok (), d')
    | .error fault => (.error fault, d)
  moment := pure around.moment
  room := around.room
  order := around.order
  breakdown := around.breakdown
  draw chart path := around.draw chart path

/-- Surroundings without a font, so that charts cannot be labelled, with room for what 63 bits can
count the bytes of. An entry takes 48. -/
def Surroundings.bare : Surroundings where
  moment := .epoch
  room entries := decide (48 * entries < 1 <<< 63)
  order := .asWritten
  breakdown := ⟨101, "capacity overflow\n"⟩
  draw _ _ d := (.error "no font to label the chart with", d)

/-- The directory as a host with nothing around it. -/
def access : Host (StateM Directory) := host .bare

end Directory
end WorkedEquations
