import GridScript.Book.Basic
import GridScript.Book.Consolidate
import GridScript.Book.Registry
import GridScript.Change
import GridScript.Command.Basic
import GridScript.Command.Execute
import GridScript.Command.Session
import GridScript.Files.Basic
import GridScript.Files.Tables
import GridScript.Format.Code
import GridScript.Format.Custom
import GridScript.Format.Date
import GridScript.Format.Fixed
import GridScript.Format.Moment
import GridScript.Formula.Evaluation
import GridScript.Formula.Expression
import GridScript.Formula.Failure
import GridScript.Formula.Function
import GridScript.Formula.Grammar
import GridScript.Formula.Parser
import GridScript.Formula.Reference
import GridScript.Formula.SheetReference
import GridScript.Formula.Table
import GridScript.Formula.Terminal
import GridScript.Json.Basic
import GridScript.Json.Line
import GridScript.Json.Reading
import GridScript.Log.Event
import GridScript.Log.Journal
import GridScript.Log.Redaction
import GridScript.Lookup
import GridScript.Main
import GridScript.Number.Exact
import GridScript.Number.FloatText
import GridScript.Number.Reading
import GridScript.Parsing.Automaton
import GridScript.Parsing.Lexicon
import GridScript.Proofs.Book.Consolidate
import GridScript.Proofs.Book.Edits
import GridScript.Proofs.Book.Invariant
import GridScript.Proofs.Change
import GridScript.Proofs.Command.Session
import GridScript.Proofs.Commits
import GridScript.Proofs.Containment
import GridScript.Proofs.Entries
import GridScript.Proofs.Format.Digits
import GridScript.Proofs.Format.Plain
import GridScript.Proofs.Format.Sections
import GridScript.Proofs.Format.Sign
import GridScript.Proofs.Formula.Agreement
import GridScript.Proofs.Formula.AlignedLookup
import GridScript.Proofs.Formula.Containment
import GridScript.Proofs.Formula.Handlers
import GridScript.Proofs.Formula.Ranges
import GridScript.Proofs.Formula.Reads
import GridScript.Proofs.Formula.Sides
import GridScript.Proofs.Formula.Syntax.Lexemes
import GridScript.Proofs.Formula.Syntax.Reading
import GridScript.Proofs.Formula.Syntax.ReferenceTexts
import GridScript.Proofs.Formula.Syntax.References
import GridScript.Proofs.Formula.Syntax.RoundTrip
import GridScript.Proofs.Formula.Syntax.Table
import GridScript.Proofs.Formula.Syntax.Words
import GridScript.Proofs.Formula.Syntax.Writing
import GridScript.Proofs.Json.Line
import GridScript.Proofs.Json.Scalars
import GridScript.Proofs.Log.Journal
import GridScript.Proofs.Log.Redaction
import GridScript.Proofs.Lookup
import GridScript.Proofs.Lookup.Transposed
import GridScript.Proofs.Number.Conversion
import GridScript.Proofs.Number.Floats
import GridScript.Proofs.Number.Reading
import GridScript.Proofs.Parsing.Completeness
import GridScript.Proofs.Parsing.Derivation
import GridScript.Proofs.Parsing.Invariant
import GridScript.Proofs.Parsing.Scanning
import GridScript.Proofs.Parsing.Soundness
import GridScript.Proofs.Parsing.Spelling
import GridScript.Proofs.Parsing.Validation
import GridScript.Proofs.Script.Arguments
import GridScript.Proofs.Script.Atomic
import GridScript.Proofs.Script.Bindings
import GridScript.Proofs.Script.Builtin
import GridScript.Proofs.Script.Containment
import GridScript.Proofs.Script.Containment.Builtin
import GridScript.Proofs.Script.Containment.Function
import GridScript.Proofs.Script.Containment.Machine
import GridScript.Proofs.Script.Containment.Token
import GridScript.Proofs.Script.Control
import GridScript.Proofs.Script.Counting
import GridScript.Proofs.Script.Definitions
import GridScript.Proofs.Script.Depth
import GridScript.Proofs.Script.Ending
import GridScript.Proofs.Script.Frames
import GridScript.Proofs.Script.Functions
import GridScript.Proofs.Script.Guards
import GridScript.Proofs.Script.IntegerTexts
import GridScript.Proofs.Script.Integers
import GridScript.Proofs.Script.Joining.Building
import GridScript.Proofs.Script.Joining.Concatenation
import GridScript.Proofs.Script.Joining.Ground
import GridScript.Proofs.Script.Joining.Lexemes
import GridScript.Proofs.Script.Joining.Opening
import GridScript.Proofs.Script.Joining.Runs
import GridScript.Proofs.Script.Joining.Scanning
import GridScript.Proofs.Script.Joining.Stacks
import GridScript.Proofs.Script.Layout
import GridScript.Proofs.Script.Layout.Reading
import GridScript.Proofs.Script.Names
import GridScript.Proofs.Script.Nodes
import GridScript.Proofs.Script.Places
import GridScript.Proofs.Script.Regime
import GridScript.Proofs.Script.Regime.Evaluation
import GridScript.Proofs.Script.Related
import GridScript.Proofs.Script.Shadowing
import GridScript.Proofs.Script.Signals
import GridScript.Proofs.Script.Steps
import GridScript.Proofs.Script.Syntax.Lexemes
import GridScript.Proofs.Script.Syntax.Reading
import GridScript.Proofs.Script.Syntax.RoundTrip
import GridScript.Proofs.Script.Syntax.Table
import GridScript.Proofs.Script.Termination
import GridScript.Proofs.Script.WellFormed
import GridScript.Proofs.Script.WriteBacks
import GridScript.Proofs.Sheet.Addresses
import GridScript.Proofs.Sheet.Blocks
import GridScript.Proofs.Sheet.Columns
import GridScript.Proofs.Sheet.Containment
import GridScript.Proofs.Sheet.Edits
import GridScript.Proofs.Sheet.Invariant
import GridScript.Proofs.Sheet.Join
import GridScript.Proofs.Sheet.Reachable
import GridScript.Proofs.Sheet.Records
import GridScript.Proofs.Sheet.Transposition
import GridScript.Proofs.Sheet.WellFormed
import GridScript.Proofs.Table.Fences
import GridScript.Proofs.Table.Frame
import GridScript.Proofs.Table.Markdown
import GridScript.Proofs.Text.Letters
import GridScript.Proofs.Text.Pieces
import GridScript.Proofs.Text.Rewriting
import GridScript.Proofs.Value.Coherence
import GridScript.Proofs.Value.Containment
import GridScript.Proofs.Value.Display
import GridScript.Proofs.Value.Integers
import GridScript.Proofs.Value.Order
import GridScript.Script.Builtin.Arguments
import GridScript.Script.Builtin.Books
import GridScript.Script.Builtin.Call
import GridScript.Script.Builtin.Catalogue
import GridScript.Script.Builtin.Core
import GridScript.Script.Builtin.FileFunctions
import GridScript.Script.Builtin.Math
import GridScript.Script.Builtin.Sheets
import GridScript.Script.Builtin.Text
import GridScript.Script.Call
import GridScript.Script.Environment
import GridScript.Script.Evaluation
import GridScript.Script.Failure
import GridScript.Script.Grammar
import GridScript.Script.Host
import GridScript.Script.Loop
import GridScript.Script.Machine
import GridScript.Script.Parser
import GridScript.Script.Phrase
import GridScript.Script.Place
import GridScript.Script.Program
import GridScript.Script.Run
import GridScript.Script.Table
import GridScript.Script.Terminal
import GridScript.Settings
import GridScript.Sheet.Address
import GridScript.Sheet.Basic
import GridScript.Sheet.Cell
import GridScript.Sheet.Derive
import GridScript.Sheet.Edit
import GridScript.Sheet.Failure
import GridScript.Sheet.Naming
import GridScript.Sheet.Record
import GridScript.Table.Calendar
import GridScript.Table.Csv
import GridScript.Table.Frame
import GridScript.Table.Markdown
import GridScript.Text.Case
import GridScript.Text.CaseTable
import GridScript.Text.Character
import GridScript.Text.Quoted
import GridScript.Text.Search
import GridScript.Text.Utf8
import GridScript.Value.Arithmetic
import GridScript.Value.Basic
import GridScript.Value.Display
import GridScript.Value.Failure
import GridScript.Value.Order
import GridScript.Value.Rounding
import GridScript.Yaml.Cursor
import GridScript.Yaml.Reading
import GridScript.Yaml.Scalar
