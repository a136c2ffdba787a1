import WorkedEquations.Main
import WorkedEquations.Proofs.Binary64.Nearest
import WorkedEquations.Proofs.Binary64.Exact
import WorkedEquations.Proofs.Binary64.Error
import WorkedEquations.Proofs.Equation.Forms
import WorkedEquations.Proofs.Equation.Coefficients
import WorkedEquations.Proofs.Equation.Acceptance
import WorkedEquations.Proofs.Equation.Characters
import WorkedEquations.Proofs.Equation.Systems
import WorkedEquations.Proofs.Equation.Respelling
import WorkedEquations.Proofs.Equation.Normal
import WorkedEquations.Proofs.Display.Shown
import WorkedEquations.Proofs.Display.Rounded
import WorkedEquations.Proofs.Display.Canonical
import WorkedEquations.Proofs.Equation.Relettered
import WorkedEquations.Proofs.Equation.Taken
import WorkedEquations.Proofs.Solution.Endings
import WorkedEquations.Proofs.Solution.Decisive
import WorkedEquations.Proofs.Solution.Residual
import WorkedEquations.Proofs.Solution.RootOrder
import WorkedEquations.Proofs.Solution.OnScreen
import WorkedEquations.Proofs.Solution.LeadingCoefficient
import WorkedEquations.Proofs.Solution.RatioResidual
import WorkedEquations.Proofs.Solution.AnswerLine
import WorkedEquations.Proofs.Solution.Relettered
import WorkedEquations.Proofs.Solution.Places
import WorkedEquations.Proofs.Solution.Restated
import WorkedEquations.Proofs.Solution.Retyped
import WorkedEquations.Proofs.Session.Reentry
import WorkedEquations.Proofs.Binary64.Negation
import WorkedEquations.Proofs.Binary64.Value
import WorkedEquations.Proofs.Binary64.SquareRoot
import WorkedEquations.Proofs.Binary64.Range
import WorkedEquations.Proofs.Solution.Symmetry
import WorkedEquations.Proofs.Session.Accounting
import WorkedEquations.Proofs.Session.Validity
import WorkedEquations.Proofs.Session.Logging
import WorkedEquations.Proofs.Settings.Limits
import WorkedEquations.Proofs.Text.Runs
import WorkedEquations.Proofs.Text.LowerCase
import WorkedEquations.Proofs.Document.Lines
import WorkedEquations.Proofs.Document.Layout
import WorkedEquations.Proofs.Document.Tokens
import WorkedEquations.Proofs.Document.Pieces
import WorkedEquations.Proofs.Document.Reading
import WorkedEquations.Proofs.Decimal.Shortest
import WorkedEquations.Proofs.Decimal.ReadBack
import WorkedEquations.Proofs.Settings.Fields
import WorkedEquations.Proofs.Settings.Recorded
import WorkedEquations.Proofs.Settings.Unknown
import WorkedEquations.Proofs.Curve.Export
import WorkedEquations.Proofs.Curve.Intervals
import WorkedEquations.Proofs.Curve.Samples
import WorkedEquations.Proofs.Curve.Span
import WorkedEquations.Proofs.Curve.Drawable
import WorkedEquations.Proofs.Directory
import WorkedEquations.Proofs.CommandLine.Run
import WorkedEquations.Proofs.CommandLine.Options
import WorkedEquations.Proofs.CommandLine.FrontEnd
