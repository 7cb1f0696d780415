import FuzzSynth.Binary64.Basic
import FuzzSynth.Binary64.Shortest
import FuzzSynth.Binary64.Text
import FuzzSynth.Bound.Basic
import FuzzSynth.Bound.Supertrait
import FuzzSynth.Cap
import FuzzSynth.Command.Host
import FuzzSynth.Command.Inspect
import FuzzSynth.Command.Option
import FuzzSynth.Command.Output
import FuzzSynth.Command.Request
import FuzzSynth.Command.Run
import FuzzSynth.Command.Start
import FuzzSynth.Command.Synthesize
import FuzzSynth.Config.Assignment
import FuzzSynth.Config.Basic
import FuzzSynth.Config.Schema
import FuzzSynth.Config.Source
import FuzzSynth.Diagnostic
import FuzzSynth.Driver
import FuzzSynth.Facts.Basic
import FuzzSynth.Facts.Schema
import FuzzSynth.Facts.Source
import FuzzSynth.Files.Fault
import FuzzSynth.Files.Path
import FuzzSynth.Files.Survey
import FuzzSynth.Files.Tree
import FuzzSynth.Files.Writing
import FuzzSynth.Graph
import FuzzSynth.Groups
import FuzzSynth.Instance.Instantiate
import FuzzSynth.Instance.Resolution
import FuzzSynth.Instance.Selection
import FuzzSynth.Instance.Substitution
import FuzzSynth.Json.Reader
import FuzzSynth.Json.Value
import FuzzSynth.Json.Writer
import FuzzSynth.Literal.Expr
import FuzzSynth.Literal.Fault
import FuzzSynth.Literal.Grammar
import FuzzSynth.Literal.Layout
import FuzzSynth.Literal.Lexeme
import FuzzSynth.Literal.Pattern
import FuzzSynth.Literal.Quotation
import FuzzSynth.Literal.Reading
import FuzzSynth.Literal.Token
import FuzzSynth.Literal.Value
import FuzzSynth.Log
import FuzzSynth.Main
import FuzzSynth.Markup
import FuzzSynth.Pool
import FuzzSynth.Pool.Cached
import FuzzSynth.Proofs.Bound.Closure
import FuzzSynth.Proofs.Bound.Expansion
import FuzzSynth.Proofs.Command.Codes
import FuzzSynth.Proofs.Command.Shown
import FuzzSynth.Proofs.Command.Tallies
import FuzzSynth.Proofs.Driver.Consumption
import FuzzSynth.Proofs.Driver.Distinct
import FuzzSynth.Proofs.Driver.Reachable
import FuzzSynth.Proofs.Driver.Tree
import FuzzSynth.Proofs.Driver.Typed
import FuzzSynth.Proofs.Graph.Comparison
import FuzzSynth.Proofs.Graph.Exclusive
import FuzzSynth.Proofs.Graph.Insertion
import FuzzSynth.Proofs.Graph.Producers
import FuzzSynth.Proofs.Instance.Caps
import FuzzSynth.Proofs.Instance.Choices
import FuzzSynth.Proofs.Instance.Concrete
import FuzzSynth.Proofs.Instance.Coverage
import FuzzSynth.Proofs.Instance.Distinct
import FuzzSynth.Proofs.Instance.Ending
import FuzzSynth.Proofs.Instance.Enumeration
import FuzzSynth.Proofs.Instance.ImpliedBounds
import FuzzSynth.Proofs.Instance.Keys
import FuzzSynth.Proofs.Instance.Outcome
import FuzzSynth.Proofs.Instance.Renaming
import FuzzSynth.Proofs.Instance.Selection
import FuzzSynth.Proofs.Instance.Sound
import FuzzSynth.Proofs.Pool.History
import FuzzSynth.Proofs.Search.Arena
import FuzzSynth.Proofs.Search.Budgets
import FuzzSynth.Proofs.Search.Caps
import FuzzSynth.Proofs.Search.Diversity
import FuzzSynth.Proofs.Search.Exhaustive
import FuzzSynth.Proofs.Search.Finish
import FuzzSynth.Proofs.Search.Growth
import FuzzSynth.Proofs.Search.Offering
import FuzzSynth.Proofs.Search.Plan
import FuzzSynth.Proofs.Search.Refusal
import FuzzSynth.Proofs.Search.Renumbering
import FuzzSynth.Proofs.Search.Report
import FuzzSynth.Proofs.Search.Termination
import FuzzSynth.Proofs.Search.Trace
import FuzzSynth.Proofs.Search.Usage
import FuzzSynth.Proofs.Sequence
import FuzzSynth.Proofs.Signature.Renaming
import FuzzSynth.Proofs.Signature.Scope
import FuzzSynth.Proofs.Statistics
import FuzzSynth.Proofs.Style.Escape
import FuzzSynth.Proofs.Style.Sound
import FuzzSynth.Proofs.Style.Tagged
import FuzzSynth.Proofs.Synthesis.Accounting
import FuzzSynth.Proofs.Synthesis.Addition
import FuzzSynth.Proofs.Synthesis.Counters
import FuzzSynth.Proofs.Synthesis.Filled
import FuzzSynth.Proofs.Synthesis.Keys
import FuzzSynth.Proofs.Synthesis.Result
import FuzzSynth.Proofs.Synthesis.Stages
import FuzzSynth.Proofs.Synthesis.Totality
import FuzzSynth.Proofs.Text.Balance
import FuzzSynth.Proofs.Text.Cutting
import FuzzSynth.Proofs.Text.Lists
import FuzzSynth.Proofs.Text.Names
import FuzzSynth.Proofs.Text.Pieces
import FuzzSynth.Proofs.Text.Splitting
import FuzzSynth.Proofs.Text.Trimming
import FuzzSynth.Proofs.Ty.Acceptance
import FuzzSynth.Proofs.Ty.Decoration
import FuzzSynth.Proofs.Ty.Grammar
import FuzzSynth.Proofs.Ty.Language
import FuzzSynth.Proofs.Ty.Layout
import FuzzSynth.Proofs.Ty.Renaming
import FuzzSynth.Proofs.Ty.RoundTrip
import FuzzSynth.Proofs.Ty.Shape
import FuzzSynth.Proofs.Ty.Spelling
import FuzzSynth.Search.Branch
import FuzzSynth.Search.Run
import FuzzSynth.Search.Settings
import FuzzSynth.Search.Step
import FuzzSynth.Sequence
import FuzzSynth.Signature.Basic
import FuzzSynth.Signature.OfFact
import FuzzSynth.Signature.Surface
import FuzzSynth.Statistics
import FuzzSynth.Style.Color
import FuzzSynth.Style.Handler
import FuzzSynth.Style.Name
import FuzzSynth.Style.Tags
import FuzzSynth.Synthesis
import FuzzSynth.Table
import FuzzSynth.Text.Blank
import FuzzSynth.Text.Brackets
import FuzzSynth.Text.Bytes
import FuzzSynth.Text.Cased
import FuzzSynth.Text.Digit
import FuzzSynth.Text.Identifier
import FuzzSynth.Text.Lifetime
import FuzzSynth.Text.Lowercase
import FuzzSynth.Text.Markup
import FuzzSynth.Text.Names
import FuzzSynth.Text.Numeral
import FuzzSynth.Text.PathName
import FuzzSynth.Text.Points
import FuzzSynth.Text.Printable
import FuzzSynth.Text.Quoted
import FuzzSynth.Text.Ranges
import FuzzSynth.Text.Split
import FuzzSynth.Text.Word
import FuzzSynth.Toml.Document
import FuzzSynth.Toml.Fault
import FuzzSynth.Toml.Moment
import FuzzSynth.Toml.Number
import FuzzSynth.Toml.Text
import FuzzSynth.Toml.Value
import FuzzSynth.Ty.Adapter
import FuzzSynth.Ty.Basic
import FuzzSynth.Ty.Parser
import FuzzSynth.Ty.Printer
import FuzzSynth.Ty.Seed
import FuzzSynth.Validation
import FuzzSynth.Validation.Scalar
import FuzzSynth.Validation.Validator
import FuzzSynth.Validation.WholeText
