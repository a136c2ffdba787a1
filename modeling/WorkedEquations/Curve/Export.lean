/-
Samples as comma separated lines.
-/
import WorkedEquations.Curve.Samples
import WorkedEquations.Decimal.Layout
import WorkedEquations.Text.Record

namespace WorkedEquations
namespace Curve

/-- A record with the names of the columns, then a record for each point. -/
def toCsv (points : List Point) : String :=
  String.join (Text.record ["x", "y"] ::
    points.map fun p => Text.record [p.x.plainText, p.y.plainText])

end Curve
end WorkedEquations
