import Templating.Calendar.Date
import Templating.Calendar.Pattern
import Templating.Calendar.Timestamp
import Templating.CommandLine
import Templating.Decimal.Integer
import Templating.Decimal.Layout
import Templating.Decimal.Reading
import Templating.Decimal.Shortest
import Templating.Engine
import Templating.Error
import Templating.Evaluation
import Templating.File
import Templating.Filter
import Templating.Filter.Argument
import Templating.Filter.Builtin
import Templating.Filter.Collection
import Templating.Filter.Conversion
import Templating.Filter.Date
import Templating.Filter.Logic
import Templating.Filter.Text
import Templating.Graph
import Templating.Graph.Order
import Templating.Ini.Reading
import Templating.Json.Number
import Templating.Json.Quoted
import Templating.Json.Reading
import Templating.Json.Tree
import Templating.Json.Writing
import Templating.Json5.Reading
import Templating.Layers
import Templating.Main
import Templating.NameMap
import Templating.Program
import Templating.Proofs.Batch.Calls
import Templating.Proofs.Batch.Cancellation
import Templating.Proofs.Batch.Cycle
import Templating.Proofs.Batch.Failure
import Templating.Proofs.Batch.Inert
import Templating.Proofs.Batch.Isolation
import Templating.Proofs.Batch.Layers
import Templating.Proofs.Batch.Permutation
import Templating.Proofs.Batch.Precedence
import Templating.Proofs.Batch.Run
import Templating.Proofs.Batch.Sequence
import Templating.Proofs.Batch.Solution
import Templating.Proofs.Batch.Unbound
import Templating.Proofs.Binary64.Integer
import Templating.Proofs.Binary64.Nearest
import Templating.Proofs.Binary64.Overflow
import Templating.Proofs.Binary64.Rounding
import Templating.Proofs.Binary64.Scaling
import Templating.Proofs.Binary64.Scientific
import Templating.Proofs.Calendar.Chronology
import Templating.Proofs.Calendar.Date
import Templating.Proofs.Calendar.Year
import Templating.Proofs.Calendar.YearDay
import Templating.Proofs.Decimal.Numeral
import Templating.Proofs.Decimal.Padded
import Templating.Proofs.Decimal.Range
import Templating.Proofs.Evaluation.Agreement
import Templating.Proofs.Evaluation.Deferred
import Templating.Proofs.Evaluation.Factoring
import Templating.Proofs.Evaluation.Failure
import Templating.Proofs.Evaluation.Leaves
import Templating.Proofs.Evaluation.Origin
import Templating.Proofs.Evaluation.Overriding
import Templating.Proofs.Evaluation.Reads
import Templating.Proofs.Evaluation.Rendering
import Templating.Proofs.Evaluation.Swallowed
import Templating.Proofs.Evaluation.Unbound
import Templating.Proofs.Filter.Builtin
import Templating.Proofs.Filter.Comparison
import Templating.Proofs.Filter.Indexing
import Templating.Proofs.Filter.Path
import Templating.Proofs.Filter.SelfEquality
import Templating.Proofs.Filter.Splitting
import Templating.Proofs.Graph.BatchOrder
import Templating.Proofs.Graph.Build
import Templating.Proofs.Graph.References
import Templating.Proofs.Graph.Search
import Templating.Proofs.Graph.Topology
import Templating.Proofs.Graph.Visits
import Templating.Proofs.Json.Finite
import Templating.Proofs.Json.Layout
import Templating.Proofs.Json.Lexeme
import Templating.Proofs.Json.Numeral
import Templating.Proofs.Json.Quoted
import Templating.Proofs.Json.Tree
import Templating.Proofs.Lexicographic
import Templating.Proofs.NameMap.Lookup
import Templating.Proofs.Outcome
import Templating.Proofs.Session
import Templating.Proofs.Template.Bare
import Templating.Proofs.Template.Concatenation
import Templating.Proofs.Template.Keyword
import Templating.Proofs.Template.Marks
import Templating.Proofs.Template.Pieces
import Templating.Proofs.Template.Quoted
import Templating.Proofs.Template.Quoting
import Templating.Proofs.Template.Scan
import Templating.Proofs.Template.Shortcut
import Templating.Proofs.Template.Source
import Templating.Proofs.Template.Span
import Templating.Proofs.Template.Strict
import Templating.Proofs.Template.Written
import Templating.Proofs.Text.DotRuns
import Templating.Proofs.Text.Occurrence
import Templating.Proofs.Text.OpenDots
import Templating.Proofs.Text.Slug
import Templating.Proofs.Text.SlugForm
import Templating.Proofs.Text.Splitting
import Templating.Proofs.Text.Trimming
import Templating.Proofs.Value.Document
import Templating.Proofs.Value.Equality
import Templating.Proofs.Value.Json
import Templating.References
import Templating.Ron.Reading
import Templating.Ron.Scalar
import Templating.Session
import Templating.Settings
import Templating.Settings.KeyPath
import Templating.Settings.Loading
import Templating.Template.Pipeline
import Templating.Template.Quote
import Templating.Template.Token
import Templating.Template.Tokenizer
import Templating.Text.Blank
import Templating.Text.Bytes
import Templating.Text.Case
import Templating.Text.CaseTable
import Templating.Text.Comment
import Templating.Text.Digit
import Templating.Text.Escaped
import Templating.Text.Hidden
import Templating.Text.Identifier
import Templating.Text.Search
import Templating.Text.Slug
import Templating.Toml.Reading
import Templating.Toml.Scalar
import Templating.Traced
import Templating.Value
import Templating.Value.Equality
import Templating.Value.Json
import Templating.Value.Overlay
import Templating.Value.Path
import Templating.Value.Text
import Templating.VariableFile
import Templating.Yaml.Blank
import Templating.Yaml.Cursor
import Templating.Yaml.Lexeme
import Templating.Yaml.Node
import Templating.Yaml.Plain
import Templating.Yaml.Reading
import Templating.Yaml.ScalarScan
import Templating.Yaml.Style
import Templating.Yaml.Tag
import Templating.Yaml.Writing
import Templating.Yaml12.Cursor
import Templating.Yaml12.Lexeme
import Templating.Yaml12.Node
import Templating.Yaml12.Reading
import Templating.Yaml12.Scalar
import Templating.Yaml12.Scheme
