import LineCalc.Text.CodeRange
import LineCalc.Text.Blank
import LineCalc.Text.Printable
import LineCalc.Text.Quoted
import LineCalc.Text.DecimalDigit
import LineCalc.Text.Casing
import LineCalc.Binary64
import LineCalc.Decimal.Shortest
import LineCalc.Decimal.Layout
import LineCalc.Decimal.Literal
import LineCalc.Token
import LineCalc.Error
import LineCalc.Diagnostic
import LineCalc.Token.Lexer
import LineCalc.Expr
import LineCalc.Expr.Polish
import LineCalc.Program.Parser
import LineCalc.Bindings
import LineCalc.Division
import LineCalc.Semantics
import LineCalc.Machine
import LineCalc.Evaluation
import LineCalc.Log.Level
import LineCalc.Log.Event
import LineCalc.Settings
import LineCalc.Line
import LineCalc.Session
import LineCalc.Scope
import LineCalc.Display.Markup
import LineCalc.Display.Table
import LineCalc.Display.Outline
import LineCalc.Display.Json
import LineCalc.Release
import LineCalc.Command.Options
import LineCalc.Command.Arguments
import LineCalc.Command.Report
import LineCalc.Command.Invocation
import LineCalc.Main
import LineCalc.Proofs.Grammar
import LineCalc.Proofs.Rejection
import LineCalc.Proofs.Reading.Expression
import LineCalc.Proofs.Reading.Program
import LineCalc.Proofs.Acceptance
import LineCalc.Proofs.ErrorLocation
import LineCalc.Proofs.ErrorKinds
import LineCalc.Proofs.Flattening
import LineCalc.Proofs.StackMachine
import LineCalc.Proofs.Segmentation
import LineCalc.Proofs.Locality
import LineCalc.Proofs.Cutting
import LineCalc.Proofs.Offsets
import LineCalc.Proofs.StrictNames
import LineCalc.Proofs.AcceptedLines
import LineCalc.Proofs.Composition
import LineCalc.Proofs.Nesting
import LineCalc.Proofs.NumberLiterals
import LineCalc.Proofs.Rendering
import LineCalc.Proofs.RenderingDepth
import LineCalc.Proofs.Scoping
import LineCalc.Proofs.DivisionPolicies
import LineCalc.Proofs.Inlining
import LineCalc.Proofs.Independence
import LineCalc.Proofs.FailingLines
import LineCalc.Proofs.ErrorMarkers
import LineCalc.Proofs.Margins
import LineCalc.Proofs.Sessions
import LineCalc.Proofs.NumberTexts
import LineCalc.Proofs.Commands
import LineCalc.Proofs.InputEnd
import LineCalc.Proofs.Descent.Points
import LineCalc.Proofs.Descent.Calls
import LineCalc.Proofs.Scopes
import LineCalc.Proofs.Rounding
import LineCalc.Proofs.NumberBits
import LineCalc.Proofs.PrintedNumbers
import LineCalc.Proofs.Markup
import LineCalc.Proofs.Displays
