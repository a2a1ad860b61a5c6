import FormWizard.Binary64.Basic
import FormWizard.Binary64.Rounding
import FormWizard.Calendar.Date
import FormWizard.Calendar.Instant
import FormWizard.Calendar.Reader
import FormWizard.CommandLine.Options
import FormWizard.CommandLine.Run
import FormWizard.Computed.Engine
import FormWizard.Computed.Field
import FormWizard.Computed.Graph
import FormWizard.Computed.Order
import FormWizard.Config
import FormWizard.Context
import FormWizard.DataPath.Access
import FormWizard.DataPath.InPlace
import FormWizard.DataPath.Segment
import FormWizard.DataPath.Write
import FormWizard.Decimal.Basic
import FormWizard.Decimal.Layout
import FormWizard.Decimal.Reader
import FormWizard.Decimal.Shortest
import FormWizard.Expr.Builtin
import FormWizard.Expr.Eval
import FormWizard.Expr.Fault
import FormWizard.Expr.Lexer
import FormWizard.Expr.Parser
import FormWizard.Expr.Syntax
import FormWizard.Expr.Token
import FormWizard.Json.Basic
import FormWizard.Json.Coercion
import FormWizard.Json.Document
import FormWizard.Json.Fields
import FormWizard.Json.Number
import FormWizard.Json.Printer
import FormWizard.Json.Token
import FormWizard.Main
import FormWizard.Navigation.Basic
import FormWizard.Navigation.Path
import FormWizard.Regex.Basic
import FormWizard.Regex.Bracket
import FormWizard.Regex.CharClass
import FormWizard.Regex.Escape
import FormWizard.Regex.Form
import FormWizard.Regex.Parser
import FormWizard.Regex.Property
import FormWizard.Regex.Runs
import FormWizard.Regex.Size
import FormWizard.Regex.Utf8
import FormWizard.Rule.Basic
import FormWizard.Rule.Codec
import FormWizard.Rule.Evaluation
import FormWizard.Rule.Evaluator
import FormWizard.Rule.Predicates
import FormWizard.Schema.Basic
import FormWizard.Schema.Check
import FormWizard.Schema.Codec
import FormWizard.Table
import FormWizard.Text.Blank
import FormWizard.Text.Numeral
import FormWizard.Unicode.Age
import FormWizard.Unicode.Case
import FormWizard.Unicode.Category
import FormWizard.Unicode.Property
import FormWizard.Unicode.Range
import FormWizard.Unicode.Script
import FormWizard.Unicode.ScriptExtension
import FormWizard.Unicode.Segmentation
import FormWizard.Visibility
import FormWizard.Proofs.Computed.DependencyOrder
import FormWizard.Proofs.DataPath.Writes
import FormWizard.Proofs.DataPath.Spelling
import FormWizard.Proofs.DataPath.Separation
import FormWizard.Proofs.DataPath.Lens
import FormWizard.Proofs.Expr.Mentions
import FormWizard.Proofs.Expr.Grammar
import FormWizard.Proofs.Expr.Soundness
import FormWizard.Proofs.Expr.Completeness
import FormWizard.Proofs.Expr.Bounds
import FormWizard.Proofs.Computed.Batches
import FormWizard.Proofs.Computed.Regularity
import FormWizard.Proofs.Computed.Confluence
import FormWizard.Proofs.Computed.Downstream
import FormWizard.Proofs.Computed.Recomputation
import FormWizard.Proofs.Text.Numerals
import FormWizard.Proofs.Decimal.Nearest
import FormWizard.Proofs.Decimal.Reading
import FormWizard.Proofs.Json.Quoting
import FormWizard.Proofs.Json.Printing
import FormWizard.Proofs.Calendar.Days
import FormWizard.Proofs.Calendar.TimeStamps
import FormWizard.Proofs.Json.Members
import FormWizard.Proofs.Rule.Reading
import FormWizard.Proofs.Rule.Keys
import FormWizard.Proofs.Rule.Clocks
import FormWizard.Proofs.Rule.Memory
import FormWizard.Proofs.Rule.Persistence
import FormWizard.Proofs.Rule.Budget
import FormWizard.Proofs.Rule.Histories
import FormWizard.Proofs.Rule.Laws
import FormWizard.Proofs.Rule.References
import FormWizard.Proofs.Navigation.Decisions
import FormWizard.Proofs.Navigation.Journeys
import FormWizard.Proofs.Navigation.Planning
import FormWizard.Proofs.Navigation.Cycles
import FormWizard.Proofs.DataPath.InPlace
import FormWizard.Proofs.DataPath.Limits
import FormWizard.Proofs.Schema.Reading
import FormWizard.Proofs.Visibility.Memory
import FormWizard.Proofs.Visibility.Runs
import FormWizard.Proofs.Schema.Soundness
import FormWizard.Proofs.Visibility.OwnRules
import FormWizard.Proofs.Computed.Coverage
import FormWizard.Proofs.DataPath.Canonical
import FormWizard.Proofs.Computed.Histories
import FormWizard.Proofs.Computed.Nearness
import FormWizard.Proofs.Computed.Registrations
import FormWizard.Proofs.Computed.Affected
import FormWizard.Proofs.Computed.Declared
import FormWizard.Proofs.Navigation.FreshDecisions
import FormWizard.Proofs.Schema.Agreement
import FormWizard.Proofs.Expr.Towers
import FormWizard.Proofs.Rule.Rereading
import FormWizard.Proofs.Schema.Rereading
import FormWizard.Proofs.Computed.Redefinitions
import FormWizard.Proofs.Computed.Rejections
import FormWizard.Proofs.Computed.Effects
import FormWizard.Proofs.Navigation.MoveLog
import FormWizard.Proofs.DataPath.Overwriting
import FormWizard.Proofs.Binary64.WholeNumbers
import FormWizard.Proofs.Json.Equality
import FormWizard.Proofs.Expr.Lexing
import FormWizard.Proofs.Expr.Words
import FormWizard.Proofs.Expr.Access
import FormWizard.Proofs.Visibility.Overviews
import FormWizard.Proofs.Calendar.Gregorian
import FormWizard.Proofs.Calendar.Reading
import FormWizard.Proofs.Computed.Today
import FormWizard.Expr.Counting
import FormWizard.Proofs.Expr.Locality
import FormWizard.Proofs.Expr.Counters
import FormWizard.Proofs.Expr.Siblings
import FormWizard.Proofs.Expr.Blame
import FormWizard.Proofs.Expr.Reports
