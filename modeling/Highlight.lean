import Highlight.Analyzer.Command
import Highlight.Analyzer.Script
import Highlight.Analyzer.Shell
import Highlight.Console.Arguments
import Highlight.Console.Config
import Highlight.Console.Dialogue
import Highlight.Console.Run
import Highlight.Data.Datum
import Highlight.Data.Decimal
import Highlight.Failure
import Highlight.Grammar.Basic
import Highlight.Grammar.Inquiry
import Highlight.Highlighter
import Highlight.Json.Basic
import Highlight.Json.Printer
import Highlight.Json.Reader
import Highlight.Language.Basic
import Highlight.Language.Bound
import Highlight.Language.C
import Highlight.Language.Construct
import Highlight.Language.Markdown
import Highlight.Language.Python
import Highlight.Language.Registry
import Highlight.Language.Rust
import Highlight.Language.Toml
import Highlight.Main
import Highlight.Pattern.Basic
import Highlight.Pattern.Reader
import Highlight.Pattern.Regex
import Highlight.Proofs.Coverage
import Highlight.Proofs.Data.Records
import Highlight.Proofs.Json.Writing
import Highlight.Proofs.Language.Closing
import Highlight.Proofs.Language.Coloring
import Highlight.Proofs.Language.Escapes
import Highlight.Proofs.Language.Fences
import Highlight.Proofs.Language.Greedy
import Highlight.Proofs.Language.Looks
import Highlight.Proofs.Language.Numbering
import Highlight.Proofs.Language.Operators
import Highlight.Proofs.Language.Packing
import Highlight.Proofs.Language.Ranking
import Highlight.Proofs.Language.Registration
import Highlight.Proofs.Language.Resuming
import Highlight.Proofs.Language.Tiling
import Highlight.Proofs.Language.Walk
import Highlight.Proofs.Pattern.Literal
import Highlight.Proofs.Pattern.Runs
import Highlight.Proofs.Regex.Filled
import Highlight.Proofs.Regex.Literal
import Highlight.Proofs.Regex.Searches
import Highlight.Proofs.Render.Colors
import Highlight.Proofs.Render.Delimiters
import Highlight.Proofs.Render.Displayed
import Highlight.Proofs.Render.Shown
import Highlight.Proofs.Renumbering
import Highlight.Proofs.Semantic.Carving
import Highlight.Proofs.Semantic.Grouping
import Highlight.Proofs.Semantic.Reports
import Highlight.Proofs.Semantic.Safety
import Highlight.Proofs.Semantic.Selection
import Highlight.Proofs.Semantic.Splicing
import Highlight.Proofs.Session.Documents
import Highlight.Proofs.Session.Explaining
import Highlight.Proofs.Session.Partition
import Highlight.Proofs.Session.Reordering
import Highlight.Proofs.Session.Threading
import Highlight.Proofs.Style.Words
import Highlight.Proofs.Text.Breaks
import Highlight.Proofs.Text.Places
import Highlight.Proofs.Text.Slices
import Highlight.Proofs.Text.Terminators
import Highlight.Proofs.Theme.Agreement
import Highlight.Proofs.Theme.Deciding
import Highlight.Proofs.Theme.Folding
import Highlight.Proofs.Theme.Interning
import Highlight.Proofs.Theme.Layout
import Highlight.Proofs.Theme.Memory
import Highlight.Proofs.Theme.Paths
import Highlight.Proofs.Theme.Questions
import Highlight.Proofs.Theme.Segments
import Highlight.Proofs.Theme.Slots
import Highlight.Proofs.Token.Positions
import Highlight.Proofs.Token.Reading
import Highlight.Proofs.Token.Spelling
import Highlight.Regex.Basic
import Highlight.Render.HexColor
import Highlight.Render.Html
import Highlight.Render.Terminal
import Highlight.Scope.Basic
import Highlight.Scope.Kind
import Highlight.Semantic.Record
import Highlight.Semantic.Splice
import Highlight.Session
import Highlight.Source.Digest
import Highlight.Source.File
import Highlight.Style.Attributes
import Highlight.Style.FontStyle
import Highlight.Text.Bytes
import Highlight.Text.Cursor
import Highlight.Text.Hex
import Highlight.Text.Lines
import Highlight.Text.Path
import Highlight.Text.Utf8
import Highlight.Theme.Basic
import Highlight.Theme.Dark
import Highlight.Theme.Explanation
import Highlight.Theme.Matching
import Highlight.Theme.Palette
import Highlight.Theme.Reader
import Highlight.Token.Basic
import Highlight.Token.Json
import Highlight.Token.Line
import Highlight.Toml.Number
import Highlight.Toml.Reader
import Highlight.Toml.Table
import Highlight.Toml.Text
import Highlight.Unicode.Blank
import Highlight.Unicode.Case
import Highlight.Unicode.Digit
import Highlight.Unicode.Ranges
import Highlight.Unicode.Word
