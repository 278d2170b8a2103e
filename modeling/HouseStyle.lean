import HouseStyle.Convention
import HouseStyle.Linter
import HouseStyle.Json.Reader
import HouseStyle.Text.Number
import HouseStyle.Yaml.Scalar
import HouseStyle.Report
import HouseStyle.Path.Pattern
import HouseStyle.Path.Expand
import HouseStyle.Whitespace
import HouseStyle.Patch
import HouseStyle.Command.Format
import HouseStyle.Fixture
import HouseStyle.Guide
import HouseStyle.Snippet
import HouseStyle.Command.Describe
import HouseStyle.Trace
import HouseStyle.Command.Check
import HouseStyle.Settings.Json
import HouseStyle.Settings.Yaml
import HouseStyle.Settings.File
import HouseStyle.Server.Session
import HouseStyle.Server.Message
import HouseStyle.Main
import HouseStyle.Proofs.Block.Indentation
import HouseStyle.Proofs.Block.Matching
import HouseStyle.Proofs.Block.Program
import HouseStyle.Proofs.Block.Folding
import HouseStyle.Proofs.Text.Boundary
import HouseStyle.Proofs.Source.Lines
import HouseStyle.Proofs.Whitespace.Clean
import HouseStyle.Proofs.Suppression.Directive
import HouseStyle.Proofs.Server.Edit
import HouseStyle.Proofs.Server.QuickFix
import HouseStyle.Proofs.Server.Received
import HouseStyle.Proofs.Server.Units
import HouseStyle.Proofs.Json.Strings
import HouseStyle.Proofs.Text.Codes
import HouseStyle.Proofs.Whitespace.Ink
import HouseStyle.Proofs.Source.Alike
import HouseStyle.Proofs.Block.Blank
import HouseStyle.Proofs.Whitespace.Blocks
import HouseStyle.Proofs.Server.Sync
import HouseStyle.Proofs.Server.Fresh
import HouseStyle.Proofs.Text.Order
import HouseStyle.Proofs.Sorting
import HouseStyle.Proofs.Linter.Sorting
import HouseStyle.Proofs.Linter.Selection
import HouseStyle.Proofs.Linter.Pool
import HouseStyle.Proofs.Rule.Orderly
import HouseStyle.Proofs.Server.Silence
import HouseStyle.Proofs.Linter.Files
import HouseStyle.Proofs.Snippet.Lines
import HouseStyle.Proofs.Command.Check
import HouseStyle.Proofs.Path.Expand
import HouseStyle.Proofs.Command.Format
import HouseStyle.Proofs.Json.RoundTrip
import HouseStyle.Proofs.Report.RoundTrip
import HouseStyle.Proofs.Linter.Terminators
import HouseStyle.Proofs.Source.Directive
import HouseStyle.Proofs.Rule.HeaderGuard
import HouseStyle.Proofs.Rule.Scan
import HouseStyle.Proofs.Rule.Switch
import HouseStyle.Proofs.Source.Comment
import HouseStyle.Proofs.Rule.Function
import HouseStyle.Proofs.Rule.Brace
import HouseStyle.Proofs.Rule.Comma
import HouseStyle.Proofs.Rule.Comment
import HouseStyle.Proofs.Rule.FallThrough
import HouseStyle.Proofs.Command.Rewritten
import HouseStyle.Proofs.Command.Step
import HouseStyle.Proofs.Whitespace.Patch
import HouseStyle.Proofs.Path.Named
import HouseStyle.Proofs.Rule.Global
import HouseStyle.Proofs.Server.BraceFolds
import HouseStyle.Proofs.Server.CommentFolds
import HouseStyle.Proofs.Snippet.Session
import HouseStyle.Proofs.Timing.Totals
import HouseStyle.Proofs.Fixture.Log
import HouseStyle.Proofs.Text.Search
import HouseStyle.Proofs.Snippet.Underline
import HouseStyle.Proofs.Whitespace.Columns
import HouseStyle.Proofs.Path.Parts
import HouseStyle.Proofs.Tree.Paths
