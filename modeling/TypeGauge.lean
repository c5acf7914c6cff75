import TypeGauge.Check.Decision
import TypeGauge.Check.Diagnostic
import TypeGauge.Check.Exemption
import TypeGauge.Check.Pass
import TypeGauge.Check.Severity
import TypeGauge.Check.StaticOf
import TypeGauge.Check.Tour
import TypeGauge.Check.Validator
import TypeGauge.Command.Line
import TypeGauge.Command.Options
import TypeGauge.Command.Run
import TypeGauge.Data.Json.Reader
import TypeGauge.Data.Json.Writer
import TypeGauge.Data.Merge
import TypeGauge.Data.Moment
import TypeGauge.Data.Toml.Moment
import TypeGauge.Data.Toml.Nest
import TypeGauge.Data.Toml.Reader
import TypeGauge.Data.Toml.Token
import TypeGauge.Data.Value
import TypeGauge.Data.ValueText
import TypeGauge.Dump.Load
import TypeGauge.Dump.Notice
import TypeGauge.Dump.Scan
import TypeGauge.Fault
import TypeGauge.Files.Path
import TypeGauge.Files.Tree
import TypeGauge.Interruption
import TypeGauge.Main
import TypeGauge.Nesting
import TypeGauge.Number.Binary
import TypeGauge.Number.DecimalText
import TypeGauge.Number.SettingText
import TypeGauge.Number.Shortest
import TypeGauge.Number.Tenths
import TypeGauge.Number.Whole
import TypeGauge.Report.Console
import TypeGauge.Report.Listing
import TypeGauge.Report.LogLevel
import TypeGauge.Report.Picture
import TypeGauge.Report.Picture.Figure
import TypeGauge.Report.Picture.Flag
import TypeGauge.Report.Picture.Symbol
import TypeGauge.Report.Plain
import TypeGauge.Report.Table
import TypeGauge.Score.Arithmetic
import TypeGauge.Score.Cache
import TypeGauge.Score.Rule
import TypeGauge.Score.Scorer
import TypeGauge.Setup.Basic
import TypeGauge.Setup.BuiltIn
import TypeGauge.Setup.Configuration
import TypeGauge.Setup.Draft
import TypeGauge.Setup.Environment
import TypeGauge.Setup.Field
import TypeGauge.Setup.Host
import TypeGauge.Setup.Issue
import TypeGauge.Setup.Library
import TypeGauge.Setup.Reading
import TypeGauge.Setup.Settings
import TypeGauge.Setup.VariableLayer
import TypeGauge.Syntax.Ascription
import TypeGauge.Syntax.EntityName
import TypeGauge.Syntax.Node
import TypeGauge.Syntax.Position
import TypeGauge.Text.Digit
import TypeGauge.Text.LetterCase
import TypeGauge.Text.Location
import TypeGauge.Text.Octets
import TypeGauge.Text.Printable
import TypeGauge.Text.Quoted
import TypeGauge.Text.Surrogate
import TypeGauge.Text.Space
import TypeGauge.Types.Basic
import TypeGauge.Types.Build
import TypeGauge.Types.Graph
import TypeGauge.Types.Kind
import TypeGauge.Proofs.Score.CacheLaws
import TypeGauge.Proofs.Score.Visit
import TypeGauge.Proofs.Score.Footprint
import TypeGauge.Proofs.Score.CycleSafety
import TypeGauge.Proofs.Types.Numbering
import TypeGauge.Proofs.Score.PlainRecursion
import TypeGauge.Proofs.Score.TreeRecursion
import TypeGauge.Proofs.Score.Renaming
import TypeGauge.Proofs.Check.StableSort
import TypeGauge.Proofs.Check.Survey
import TypeGauge.Proofs.Check.Specification
import TypeGauge.Proofs.Score.Capping
import TypeGauge.Proofs.Check.PerformanceMode
import TypeGauge.Proofs.Data.Fields
import TypeGauge.Proofs.Check.Tours
import TypeGauge.Proofs.Check.Reordering
import TypeGauge.Proofs.Data.Inside
import TypeGauge.Proofs.Syntax.WellFormed
import TypeGauge.Proofs.Types.Building
import TypeGauge.Proofs.Check.Completion
import TypeGauge.Proofs.Check.ExactCompletion
import TypeGauge.Proofs.Dump.Resilience
import TypeGauge.Proofs.Setup.Environment
import TypeGauge.Proofs.Setup.Library
import TypeGauge.Proofs.Setup.Variables
import TypeGauge.Proofs.Setup.BuiltIn
import TypeGauge.Proofs.Setup.Precedence
import TypeGauge.Proofs.Check.Coverage
import TypeGauge.Proofs.Check.Conservation
import TypeGauge.Proofs.Dump.Independence
import TypeGauge.Proofs.Score.Monotonicity
import TypeGauge.Proofs.Setup.SafeMode
import TypeGauge.Proofs.Number.DoubleOrder
import TypeGauge.Proofs.Score.Dependence
import TypeGauge.Proofs.Check.BaseThreshold
import TypeGauge.Proofs.Check.SeverityThresholds
import TypeGauge.Proofs.Check.EntryDepth
import TypeGauge.Proofs.Check.Protocol
import TypeGauge.Proofs.Check.Spellings
import TypeGauge.Proofs.Score.Abandonment
import TypeGauge.Proofs.Score.Rearrangement
import TypeGauge.Proofs.Score.Freshness
import TypeGauge.Proofs.Number.ExactValue
import TypeGauge.Proofs.Number.CorrectRounding
import TypeGauge.Proofs.Check.StaticGrammar
import TypeGauge.Proofs.Syntax.Stripping
import TypeGauge.Proofs.Score.Unnamed
import TypeGauge.Proofs.Check.Metadata
import TypeGauge.Proofs.Syntax.DottedNames
