import PythonAudit.Analyzer
import PythonAudit.Command.Argument
import PythonAudit.Command.Basic
import PythonAudit.Command.Help
import PythonAudit.Command.Listing
import PythonAudit.Command.Run
import PythonAudit.Concrete.Expression
import PythonAudit.Concrete.Goal
import PythonAudit.Concrete.Grammar
import PythonAudit.Concrete.Layout
import PythonAudit.Concrete.Lexeme
import PythonAudit.Concrete.Parser
import PythonAudit.Concrete.Pattern
import PythonAudit.Concrete.Program
import PythonAudit.Concrete.Quoted
import PythonAudit.Concrete.Signature
import PythonAudit.Concrete.Simple
import PythonAudit.Concrete.Statement
import PythonAudit.Config
import PythonAudit.Config.Load
import PythonAudit.Detector.Basic
import PythonAudit.Detector.DangerousCall
import PythonAudit.Detector.Entropy
import PythonAudit.Detector.Fallback
import PythonAudit.Detector.Obfuscation
import PythonAudit.Detector.Settings
import PythonAudit.Detector.Walk
import PythonAudit.Failure
import PythonAudit.File.Discover
import PythonAudit.File.Path
import PythonAudit.File.Tree
import PythonAudit.Glob.Pattern
import PythonAudit.Glob.Reader
import PythonAudit.Json.Basic
import PythonAudit.Json.Reader
import PythonAudit.Json.Writer
import PythonAudit.Literal.Escape
import PythonAudit.Literal.Form
import PythonAudit.Main
import PythonAudit.Number.Decimal
import PythonAudit.Number.Double
import PythonAudit.Render.Format
import PythonAudit.Render.Style
import PythonAudit.Render.Text
import PythonAudit.Report.Basic
import PythonAudit.Report.Finding
import PythonAudit.Report.Json
import PythonAudit.Report.Scan
import PythonAudit.Report.Severity
import PythonAudit.Scan
import PythonAudit.Strict.Argument
import PythonAudit.Strict.Expression
import PythonAudit.Strict.Fault
import PythonAudit.Strict.Grammar
import PythonAudit.Strict.Lexer
import PythonAudit.Strict.Pattern
import PythonAudit.Strict.Quoted
import PythonAudit.Strict.Rule
import PythonAudit.Strict.SoftKeyword
import PythonAudit.Strict.Statement
import PythonAudit.Strict.Token
import PythonAudit.Syntax.Arena
import PythonAudit.Syntax.Context
import PythonAudit.Syntax.Kind
import PythonAudit.Syntax.Lower
import PythonAudit.Syntax.Name
import PythonAudit.Syntax.ParseTree
import PythonAudit.Syntax.Source
import PythonAudit.Text.CharacterName
import PythonAudit.Text.CharacterName.AToB
import PythonAudit.Text.CharacterName.CToD
import PythonAudit.Text.CharacterName.EToK
import PythonAudit.Text.CharacterName.LToN
import PythonAudit.Text.CharacterName.OToZ
import PythonAudit.Text.Emoji
import PythonAudit.Text.Identifier
import PythonAudit.Text.Locate
import PythonAudit.Text.Point
import PythonAudit.Toml.Basic
import PythonAudit.Toml.Document
import PythonAudit.Toml.Number
import PythonAudit.Toml.Text
import PythonAudit.Proofs.Kept
import PythonAudit.Proofs.Pruning
import PythonAudit.Proofs.DangerousCall
import PythonAudit.Proofs.DecodeArgument
import PythonAudit.Proofs.LiteralValue
import PythonAudit.Proofs.WalkLog
import PythonAudit.Proofs.LineOrder
import PythonAudit.Proofs.Reuse
import PythonAudit.Proofs.Crew
import PythonAudit.Proofs.FindingOrder
import PythonAudit.Proofs.ReportInvariant
import PythonAudit.Proofs.Independence
import PythonAudit.Proofs.LiteralBuffer
import PythonAudit.Proofs.Sighting
import PythonAudit.Proofs.LayoutEdit
import PythonAudit.Proofs.EntropyBound
import PythonAudit.Proofs.Spelling
import PythonAudit.Proofs.ExitCode
import PythonAudit.Proofs.ReportText
import PythonAudit.Proofs.RunEffect
import PythonAudit.Proofs.EntropyShare
import PythonAudit.Proofs.WeightScale
import PythonAudit.Proofs.SeverityFilter
import PythonAudit.Proofs.Location
import PythonAudit.Proofs.DoubleOrder
import PythonAudit.Proofs.FirstFault
import PythonAudit.Proofs.ScanSummary
import PythonAudit.Proofs.FallbackScan
import PythonAudit.Proofs.FileWalk
import PythonAudit.Proofs.Discovery
import PythonAudit.Proofs.StandardExclude
import PythonAudit.Proofs.Printed
import PythonAudit.Proofs.ColouredText
import PythonAudit.Proofs.CompactLine
import PythonAudit.Proofs.TextBlock
import PythonAudit.Proofs.EscapeScan
import PythonAudit.Proofs.LineEnding
import PythonAudit.Proofs.Ancestry
import PythonAudit.Proofs.BraceDoubling
