/-
Charts of samples: what is on a chart, and when there is none. The drawing
itself is done elsewhere.
-/
import WorkedEquations.Curve.Samples

namespace WorkedEquations
namespace Curve

/-- What is drawn: a curve below its caption, with marks on the axis, in a window from the least to
the greatest x and y. -/
structure Chart where
  caption : String
  xRange : Binary64 × Binary64
  yRange : Binary64 × Binary64
  curve : List Point
  marks : List Binary64
deriving DecidableEq

/-- The least and the greatest of values, set apart by a twentieth of the distance between them,
or by one if there is none. -/
def paddedRange (values : List Binary64) : Binary64 × Binary64 :=
  let least := values.foldl .lesser (.infinite false)
  let greatest := values.foldl .greater (.infinite true)
  let pad : Binary64 :=
    if least < greatest then .ofDecimal false 5 (-2) * (greatest - least) else 1
  (least - pad, greatest + pad)

/-- The chart of points with the axis in sight, if there are any points. -/
def Chart.ofPoints? (points : List Point) (marks : List Binary64) (caption : String) :
    Option Chart :=
  if points.isEmpty then none
  else
    some
      { caption, marks, curve := points
        xRange := paddedRange (points.map (·.x))
        yRange := paddedRange (points.map (·.y) ++ [0]) }

/-- Why a chart is not there. -/
inductive ChartFault where
  | nothingToPlot
  /-- The drawing failed, in its own words. -/
  | notDrawn (message : String)
deriving DecidableEq

def ChartFault.message : ChartFault → String
  | nothingToPlot => "nothing to plot"
  | notDrawn message => message

/-- Why a chart of the points is not there: there are none, or what the drawing says. -/
def chartFault (points : List Point) (said : String := "") : ChartFault :=
  if points.isEmpty then .nothingToPlot else .notDrawn said

/-- Draw a chart of points into a file. -/
def plot [Monad m] (draw : Chart → String → m (Except String Unit)) (points : List Point)
    (marks : List Binary64) (caption path : String) : m (Except ChartFault Unit) :=
  match Chart.ofPoints? points marks caption with
  | none => return .error (chartFault points)
  | some chart => return (← draw chart path).mapError (chartFault points ·)

end Curve
end WorkedEquations
