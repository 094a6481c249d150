import Gleaner.Binary64.Basic
import Gleaner.Binary64.Decimal
import Gleaner.CommandLine.Arguments
import Gleaner.CommandLine.Files
import Gleaner.CommandLine.Run
import Gleaner.Document
import Gleaner.Expression
import Gleaner.Extraction
import Gleaner.Failure
import Gleaner.Html.Construction
import Gleaner.Html.Document
import Gleaner.Html.Draft
import Gleaner.Html.Foreign
import Gleaner.Html.NamedCharacters
import Gleaner.Html.Reference
import Gleaner.Html.Rules
import Gleaner.Html.Token
import Gleaner.Html.Tree
import Gleaner.Json.Basic
import Gleaner.Json.Order
import Gleaner.Json.Reader
import Gleaner.Json.Written
import Gleaner.Main
import Gleaner.Outcome
import Gleaner.Outline
import Gleaner.Output.Options
import Gleaner.Output.Render
import Gleaner.Pattern.Basic
import Gleaner.Pattern.CharSet
import Gleaner.Pattern.Properties
import Gleaner.Pattern.Reader
import Gleaner.Plan
import Gleaner.Proofs.Binary64.Monotone
import Gleaner.Proofs.Binary64.Numeral
import Gleaner.Proofs.Binary64.Rounding
import Gleaner.Proofs.Binary64.Shortest
import Gleaner.Proofs.Binary64.Whole
import Gleaner.Proofs.CommandLine.GivenText
import Gleaner.Proofs.Document.PathRows
import Gleaner.Proofs.Document.Rows
import Gleaner.Proofs.Extraction.Endings
import Gleaner.Proofs.Extraction.Nesting
import Gleaner.Proofs.Json.Alphabet
import Gleaner.Proofs.Json.IntegerOrder
import Gleaner.Proofs.Json.Members
import Gleaner.Proofs.Json.Merging
import Gleaner.Proofs.Json.NumberText
import Gleaner.Proofs.Json.Occurrences
import Gleaner.Proofs.Json.Order
import Gleaner.Proofs.Json.PlainNumeral
import Gleaner.Proofs.Json.ReadText
import Gleaner.Proofs.Json.Sameness
import Gleaner.Proofs.Json.StringBody
import Gleaner.Proofs.Output.Agreement
import Gleaner.Proofs.Output.Delimited
import Gleaner.Proofs.Output.LegalText
import Gleaner.Proofs.Output.Markup
import Gleaner.Proofs.Output.Readings
import Gleaner.Proofs.Plan.ColumnTypes
import Gleaner.Proofs.Plan.DataFailures
import Gleaner.Proofs.Plan.IntegerFilter
import Gleaner.Proofs.Plan.MissingValues
import Gleaner.Proofs.Plan.Pipeline
import Gleaner.Proofs.Plan.References
import Gleaner.Proofs.Plan.Truncation
import Gleaner.Proofs.Query.Addition
import Gleaner.Proofs.Query.Alphabet
import Gleaner.Proofs.Query.Alternatives
import Gleaner.Proofs.Query.Arithmetic
import Gleaner.Proofs.Query.Conditions
import Gleaner.Proofs.Query.Containment
import Gleaner.Proofs.Query.ErrorPositions
import Gleaner.Proofs.Query.Errors
import Gleaner.Proofs.Query.Extremum
import Gleaner.Proofs.Query.Keys
import Gleaner.Proofs.Query.Layout
import Gleaner.Proofs.Query.Lexing
import Gleaner.Proofs.Query.Literal
import Gleaner.Proofs.Query.MemberComparison
import Gleaner.Proofs.Query.Overflow
import Gleaner.Proofs.Query.Parts
import Gleaner.Proofs.Query.Pipes
import Gleaner.Proofs.Query.Progress
import Gleaner.Proofs.Query.Ranges
import Gleaner.Proofs.Query.ReadingBack
import Gleaner.Proofs.Query.Recovery
import Gleaner.Proofs.Query.Relisting
import Gleaner.Proofs.Query.Results
import Gleaner.Proofs.Query.Selections
import Gleaner.Proofs.Query.SplitJoin
import Gleaner.Proofs.Query.Streams
import Gleaner.Proofs.Query.Subtraction
import Gleaner.Proofs.Query.ValueQuery
import Gleaner.Proofs.Query.ValueText
import Gleaner.Proofs.Query.Wildcards
import Gleaner.Proofs.Query.Writing
import Gleaner.Proofs.Query.WrittenText
import Gleaner.Proofs.Spec.BlockLayout
import Gleaner.Proofs.Spec.LayoutParts
import Gleaner.Proofs.Spec.LayoutScan
import Gleaner.Proofs.Spec.Locating
import Gleaner.Proofs.Spec.LineScan
import Gleaner.Proofs.Spec.PathText
import Gleaner.Proofs.Spec.Shape
import Gleaner.Proofs.Template.Cutting
import Gleaner.Proofs.Template.Form
import Gleaner.Proofs.Template.InlineValue
import Gleaner.Proofs.Template.Occurrences
import Gleaner.Proofs.Template.PathGaps
import Gleaner.Proofs.Template.PathSubstitution
import Gleaner.Proofs.Template.QueryGaps
import Gleaner.Proofs.Template.Segments
import Gleaner.Proofs.Template.StringValues
import Gleaner.Proofs.Text.Ends
import Gleaner.Proofs.Text.Infix
import Gleaner.Proofs.Text.Names
import Gleaner.Proofs.Text.Pieces
import Gleaner.Proofs.Text.Slice
import Gleaner.Proofs.Text.Trimming
import Gleaner.Proofs.XPath.LiteralValue
import Gleaner.Proofs.XPath.NodeSets
import Gleaner.Proofs.Xml.Numbering
import Gleaner.Query.Evaluation
import Gleaner.Query.Grammar
import Gleaner.Query.Lexer
import Gleaner.Query.Operators
import Gleaner.Query.Surface
import Gleaner.Query.Syntax
import Gleaner.Query.Token
import Gleaner.Record
import Gleaner.Selector.Matching
import Gleaner.Selector.Reader
import Gleaner.Selector.Syntax
import Gleaner.Spec.Basic
import Gleaner.Spec.Check
import Gleaner.Spec.Location
import Gleaner.Spec.Reader
import Gleaner.Template
import Gleaner.Text.Blank
import Gleaner.Text.CaseVariants
import Gleaner.Text.CodePoint
import Gleaner.Text.Cut
import Gleaner.Text.Name
import Gleaner.Text.Printable
import Gleaner.Text.Ranges
import Gleaner.Transform
import Gleaner.XPath.Evaluation
import Gleaner.XPath.Functions
import Gleaner.XPath.Grammar
import Gleaner.XPath.Literal
import Gleaner.XPath.Syntax
import Gleaner.XPath.Token
import Gleaner.XPath.Value
import Gleaner.Xml.Document
import Gleaner.Xml.Name
import Gleaner.Xml.Token
import Gleaner.Xml.Tree
import Gleaner.Yaml.Cursor
import Gleaner.Yaml.Reader
import Gleaner.Yaml.Scalar
import Gleaner.Yaml.Value
