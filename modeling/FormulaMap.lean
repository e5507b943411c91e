import FormulaMap.Analysis.Analyzer
import FormulaMap.Analysis.FanOut
import FormulaMap.Code.Automaton.Canonical
import FormulaMap.Code.Automaton.Edge
import FormulaMap.Code.Automaton.Item
import FormulaMap.Code.Automaton.Merge
import FormulaMap.Code.Automaton.Row
import FormulaMap.Code.Automaton.Table
import FormulaMap.Code.Automaton.TokenSet
import FormulaMap.Code.Calls
import FormulaMap.Code.Declared
import FormulaMap.Code.DocComment
import FormulaMap.Code.Fault
import FormulaMap.Code.Forest
import FormulaMap.Code.Grammar.Classes
import FormulaMap.Code.Grammar.Expressions
import FormulaMap.Code.Grammar.Language
import FormulaMap.Code.Grammar.Literals
import FormulaMap.Code.Grammar.Members
import FormulaMap.Code.Grammar.Modules
import FormulaMap.Code.Grammar.Production
import FormulaMap.Code.Grammar.Rule
import FormulaMap.Code.Grammar.Statements
import FormulaMap.Code.Kind
import FormulaMap.Code.Lexis.Overlap
import FormulaMap.Code.Lexis.Pattern
import FormulaMap.Code.Lexis.Scan
import FormulaMap.Code.Lexis.TokenPattern
import FormulaMap.Code.Methods
import FormulaMap.Code.NumericType
import FormulaMap.Code.Phrase
import FormulaMap.Code.Reader.Growth
import FormulaMap.Code.Reader.Recover
import FormulaMap.Code.Reader.Reduce
import FormulaMap.Code.Reader.Run
import FormulaMap.Code.Reader.Scanner
import FormulaMap.Code.Reader.Stack
import FormulaMap.Code.Span
import FormulaMap.Code.SyntaxTree
import FormulaMap.Code.Token
import FormulaMap.CommandLine.Directive
import FormulaMap.CommandLine.Events
import FormulaMap.CommandLine.Failure
import FormulaMap.CommandLine.Filter
import FormulaMap.CommandLine.Invocation
import FormulaMap.CommandLine.Log
import FormulaMap.CommandLine.Run
import FormulaMap.CommandLine.Usage
import FormulaMap.CommandLine.ValuePattern
import FormulaMap.CommandLine.World
import FormulaMap.Decimal.Binary
import FormulaMap.Decimal.Digits
import FormulaMap.Decimal.Numeral
import FormulaMap.Decimal.Positional
import FormulaMap.Decimal.Shortest
import FormulaMap.Http.Domain.Label
import FormulaMap.Http.Domain.Mapping
import FormulaMap.Http.Domain.Name
import FormulaMap.Http.Domain.Refused
import FormulaMap.Http.Exchange
import FormulaMap.Http.Host
import FormulaMap.Http.Percent
import FormulaMap.Http.Punycode
import FormulaMap.Http.Url
import FormulaMap.Json.Fault
import FormulaMap.Json.Number
import FormulaMap.Json.Reader
import FormulaMap.Json.Skip
import FormulaMap.Json.Typed
import FormulaMap.Json.Value
import FormulaMap.Main
import FormulaMap.Mapping.Construct
import FormulaMap.Mapping.Outcome
import FormulaMap.Mapping.SymbolMapping
import FormulaMap.Oracle.Call
import FormulaMap.Oracle.Completion
import FormulaMap.Oracle.Endpoint
import FormulaMap.Oracle.Prompt
import FormulaMap.Oracle.Request
import FormulaMap.Policy
import FormulaMap.Proofs.Analysis.Order
import FormulaMap.Proofs.Analysis.Permits
import FormulaMap.Proofs.Analysis.Policies
import FormulaMap.Proofs.Analysis.Tracking
import FormulaMap.Proofs.Analysis.Turns
import FormulaMap.Proofs.Code.Automaton.Accepting
import FormulaMap.Proofs.Code.Arguments
import FormulaMap.Proofs.Code.BraceMatching
import FormulaMap.Proofs.Code.Calls
import FormulaMap.Proofs.Code.Declarations
import FormulaMap.Proofs.Code.DocComment
import FormulaMap.Proofs.Code.Legible
import FormulaMap.Proofs.Code.Nodes
import FormulaMap.Proofs.Code.Paths
import FormulaMap.Proofs.Code.Reader.Accept
import FormulaMap.Proofs.Code.Reader.Merge
import FormulaMap.Proofs.Code.Reader.Places
import FormulaMap.Proofs.Code.Reader.Recover
import FormulaMap.Proofs.Code.Reader.Reduce
import FormulaMap.Proofs.Code.Reader.Run
import FormulaMap.Proofs.Code.Reader.Spelling
import FormulaMap.Proofs.Code.Reader.Stack
import FormulaMap.Proofs.Code.Reader.Tokens
import FormulaMap.Proofs.Code.Reader.Walk
import FormulaMap.Proofs.Code.Selection
import FormulaMap.Proofs.Code.Span
import FormulaMap.Proofs.Code.SpanLines
import FormulaMap.Proofs.Code.Variables
import FormulaMap.Proofs.CommandLine.Effects
import FormulaMap.Proofs.CommandLine.Overriding
import FormulaMap.Proofs.CommandLine.Requests
import FormulaMap.Proofs.CommandLine.Stages
import FormulaMap.Proofs.Json.Numerals
import FormulaMap.Proofs.Json.Passing
import FormulaMap.Proofs.Json.Progress
import FormulaMap.Proofs.Json.Shapes
import FormulaMap.Proofs.Json.Structures
import FormulaMap.Proofs.Json.WrittenIntegers
import FormulaMap.Proofs.Json.WrittenNumbers
import FormulaMap.Proofs.Json.WrittenObjects
import FormulaMap.Proofs.Json.WrittenStrings
import FormulaMap.Proofs.Mapping.Entries
import FormulaMap.Proofs.Mapping.History
import FormulaMap.Proofs.Oracle.Faults
import FormulaMap.Proofs.Oracle.Responses
import FormulaMap.Proofs.Record.Documents
import FormulaMap.Proofs.Reply.Contract
import FormulaMap.Proofs.Reply.Decoding
import FormulaMap.Proofs.Reply.Literals
import FormulaMap.Proofs.Reply.Region
import FormulaMap.Proofs.Reply.RoundTrip
import FormulaMap.Proofs.Reply.SymbolSearch
import FormulaMap.Proofs.Reply.Undocumented
import FormulaMap.Proofs.Report.Sum
import FormulaMap.Proofs.Settings.Addresses
import FormulaMap.Proofs.Settings.Environment
import FormulaMap.Proofs.Settings.Files
import FormulaMap.Proofs.Settings.Groups
import FormulaMap.Proofs.Settings.Keys
import FormulaMap.Proofs.Settings.Merging
import FormulaMap.Proofs.Settings.Precedence
import FormulaMap.Proofs.Settings.Sections
import FormulaMap.Proofs.Settings.VariableText
import FormulaMap.Proofs.Text.Occurrences
import FormulaMap.Proofs.Text.Splitting
import FormulaMap.Proofs.Text.Trimming
import FormulaMap.Record.Basic
import FormulaMap.Record.NameSet
import FormulaMap.Reply.Decode
import FormulaMap.Reply.Interpretation
import FormulaMap.Reply.Object
import FormulaMap.Report
import FormulaMap.Settings.Basic
import FormulaMap.Settings.Layers
import FormulaMap.Settings.Load
import FormulaMap.Settings.Location
import FormulaMap.Settings.Value
import FormulaMap.Settings.Variable
import FormulaMap.Settings.VariableFile
import FormulaMap.Symbol
import FormulaMap.Text.Alphabetic
import FormulaMap.Text.Blank
import FormulaMap.Text.Bytes
import FormulaMap.Text.CanonicalForm
import FormulaMap.Text.CharacterRange
import FormulaMap.Text.CombiningClass
import FormulaMap.Text.Composition
import FormulaMap.Text.Direction
import FormulaMap.Text.Identifier
import FormulaMap.Text.Joining
import FormulaMap.Text.Listing
import FormulaMap.Text.Mark
import FormulaMap.Text.Numeric
import FormulaMap.Text.Pieces
import FormulaMap.Text.Printable
import FormulaMap.Text.Shown
import FormulaMap.Toml.Document
import FormulaMap.Toml.Scalar
import FormulaMap.Toml.Table
import FormulaMap.Toml.Text
