import Scripting.CommandLine.Command
import Scripting.CommandLine.Emission
import Scripting.CommandLine.Flag
import Scripting.CommandLine.Repl
import Scripting.CommandLine.TokenTable
import Scripting.Debug.Flag
import Scripting.Debug.Log
import Scripting.Decimal.Binary
import Scripting.Decimal.Layout
import Scripting.Decimal.Number
import Scripting.Decimal.Power
import Scripting.Decimal.Shortest
import Scripting.Evaluation.Builtin
import Scripting.Evaluation.Cancellation
import Scripting.Evaluation.Error
import Scripting.Evaluation.Eval
import Scripting.Evaluation.Function
import Scripting.Evaluation.State
import Scripting.Json
import Scripting.Literal
import Scripting.Main
import Scripting.Parser.Declarations
import Scripting.Parser.Expr
import Scripting.Parser.File
import Scripting.Parser.Statement
import Scripting.Position
import Scripting.Proofs.Evaluation.CallTree
import Scripting.Proofs.Evaluation.Cancellation
import Scripting.Proofs.Evaluation.DepthLimit
import Scripting.Proofs.Evaluation.Exits
import Scripting.Proofs.Evaluation.Failures
import Scripting.Proofs.Evaluation.Files
import Scripting.Proofs.Evaluation.Fuel
import Scripting.Proofs.Evaluation.Functions
import Scripting.Proofs.Evaluation.History
import Scripting.Proofs.Evaluation.Isolation
import Scripting.Proofs.Evaluation.Joining
import Scripting.Proofs.Evaluation.Keeping
import Scripting.Proofs.Evaluation.Lengths
import Scripting.Proofs.Evaluation.Locals
import Scripting.Proofs.Evaluation.Mirroring
import Scripting.Proofs.Evaluation.Outcome
import Scripting.Proofs.Evaluation.Printing
import Scripting.Proofs.Evaluation.Rounds
import Scripting.Proofs.Evaluation.Safety
import Scripting.Proofs.Evaluation.Signals
import Scripting.Proofs.Evaluation.Simulation
import Scripting.Proofs.Evaluation.Steps
import Scripting.Proofs.Grammar
import Scripting.Proofs.Layout
import Scripting.Proofs.Likeness
import Scripting.Proofs.Parser.Acceptance
import Scripting.Proofs.Parser.Completeness
import Scripting.Proofs.Parser.Cursor
import Scripting.Proofs.Parser.Cut
import Scripting.Proofs.Parser.Derivation
import Scripting.Proofs.Parser.EarlyEnd
import Scripting.Proofs.Parser.Following
import Scripting.Proofs.Parser.Front
import Scripting.Proofs.Parser.Lawfulness
import Scripting.Proofs.Parser.Likeness
import Scripting.Proofs.Parser.Places
import Scripting.Proofs.Parser.Precedence
import Scripting.Proofs.Parser.Reflow
import Scripting.Proofs.Parser.ReflowedScripts
import Scripting.Proofs.Parser.Refusals
import Scripting.Proofs.Parser.Reprinting
import Scripting.Proofs.Parser.Rules
import Scripting.Proofs.Parser.Scoping
import Scripting.Proofs.Parser.Settling
import Scripting.Proofs.Parser.Stop
import Scripting.Proofs.Parser.Strictness
import Scripting.Proofs.Parser.Unbounded
import Scripting.Proofs.Program
import Scripting.Proofs.Scoping
import Scripting.Proofs.Session.Agreement
import Scripting.Proofs.Session.Constancy
import Scripting.Proofs.Session.Declarations
import Scripting.Proofs.Session.Entries
import Scripting.Proofs.Session.Leftovers
import Scripting.Proofs.Session.Pieces
import Scripting.Proofs.Session.Rearrangement
import Scripting.Proofs.Source
import Scripting.Proofs.Token.Completion
import Scripting.Proofs.Token.Concatenation
import Scripting.Proofs.Token.Coverage
import Scripting.Proofs.Token.Faults
import Scripting.Proofs.Token.Lexemes
import Scripting.Proofs.Token.Lines
import Scripting.Proofs.Token.Origins
import Scripting.Proofs.Token.Partition
import Scripting.Proofs.Token.Placement
import Scripting.Proofs.Token.Quoting
import Scripting.Proofs.Token.Rendering
import Scripting.Proofs.Token.RoundTrip
import Scripting.Proofs.Token.Runs
import Scripting.Proofs.Token.Step
import Scripting.Proofs.Token.Unbounded
import Scripting.Proofs.Value.Arithmetic
import Scripting.Proofs.Value.Order
import Scripting.Proofs.Value.Power
import Scripting.Proofs.Value.Ranges
import Scripting.Proofs.Value.ReciprocalPower
import Scripting.Proofs.Value.Rounding
import Scripting.Scope
import Scripting.Session.Basic
import Scripting.Session.Run
import Scripting.Settings.Basic
import Scripting.Settings.Document
import Scripting.Source
import Scripting.SyntaxError
import Scripting.Text.Blank
import Scripting.Text.CodeRange
import Scripting.Text.DecimalDigit
import Scripting.Text.Letter
import Scripting.Text.Printable
import Scripting.Text.Quoted
import Scripting.Text.Utf8
import Scripting.Token.Basic
import Scripting.Token.Cursor
import Scripting.Token.Kind
import Scripting.Token.Scanner
import Scripting.Token.Written
import Scripting.Tree.Basic
import Scripting.Tree.Calls
import Scripting.Tree.Equality
import Scripting.Tree.Json
import Scripting.Tree.Outline
import Scripting.Tree.Text
import Scripting.Tree.Walk
import Scripting.Value.Basic
import Scripting.Value.Host
import Scripting.Value.Iteration
import Scripting.Value.Numeric
import Scripting.Value.Operation
import Scripting.Value.Order
import Scripting.Yaml.Block
import Scripting.Yaml.Decode
import Scripting.Yaml.Flow
import Scripting.Yaml.Node
import Scripting.Yaml.Scalar
