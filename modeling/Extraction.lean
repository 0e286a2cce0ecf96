import Extraction.CharSet
import Extraction.Cli.Args
import Extraction.Cli.Directory
import Extraction.Cli.Run
import Extraction.Context
import Extraction.Decimal.Binary
import Extraction.Decimal.Notation
import Extraction.Decimal.Read
import Extraction.Decimal.Shortest
import Extraction.Directive
import Extraction.Document
import Extraction.Document.Static
import Extraction.Instruction
import Extraction.Json
import Extraction.Json.Forms
import Extraction.Json.Numeral
import Extraction.Json.Read
import Extraction.Layout.Compile
import Extraction.Layout.Line
import Extraction.Layout.Parse
import Extraction.Layout.Record
import Extraction.Machine
import Extraction.Machine.Env
import Extraction.Machine.Handler
import Extraction.Machine.QueryDirectives
import Extraction.Machine.TextDirectives
import Extraction.Main
import Extraction.Number
import Extraction.Pattern
import Extraction.Pattern.Automaton
import Extraction.Pattern.Class
import Extraction.Pattern.Node
import Extraction.Pattern.Parser
import Extraction.Pattern.Replacement
import Extraction.Pattern.Resolve
import Extraction.Pattern.Search
import Extraction.Pattern.Size
import Extraction.Pattern.Syntax
import Extraction.Program
import Extraction.Program.Load
import Extraction.Proofs.Agreement
import Extraction.Proofs.Answers
import Extraction.Proofs.Basic
import Extraction.Proofs.ByteOrder
import Extraction.Proofs.Bytecode
import Extraction.Proofs.Calls
import Extraction.Proofs.Canonical
import Extraction.Proofs.Checking
import Extraction.Proofs.Defects
import Extraction.Proofs.Disassembly
import Extraction.Proofs.Division
import Extraction.Proofs.Doubles
import Extraction.Proofs.Entries
import Extraction.Proofs.Execution
import Extraction.Proofs.Failure
import Extraction.Proofs.Files
import Extraction.Proofs.Forms
import Extraction.Proofs.Frames
import Extraction.Proofs.Framing
import Extraction.Proofs.Header
import Extraction.Proofs.Isolation
import Extraction.Proofs.JsonReading
import Extraction.Proofs.JsonWriting
import Extraction.Proofs.Labels
import Extraction.Proofs.Lifecycle
import Extraction.Proofs.Line
import Extraction.Proofs.Matching
import Extraction.Proofs.Memory
import Extraction.Proofs.Nulls
import Extraction.Proofs.NumberText
import Extraction.Proofs.Numbering
import Extraction.Proofs.Occurrence
import Extraction.Proofs.Offsets
import Extraction.Proofs.Operations
import Extraction.Proofs.Outputs
import Extraction.Proofs.Pointwise
import Extraction.Proofs.Record
import Extraction.Proofs.Rounding
import Extraction.Proofs.Run
import Extraction.Proofs.Scope
import Extraction.Proofs.Seam
import Extraction.Proofs.Search
import Extraction.Proofs.Sequence
import Extraction.Proofs.ShortestDecimal
import Extraction.Proofs.Source
import Extraction.Proofs.Spelling
import Extraction.Proofs.Stepping
import Extraction.Proofs.Store
import Extraction.Proofs.StrayHeader
import Extraction.Proofs.Truncation
import Extraction.Proofs.Utf8
import Extraction.Proofs.Verdict
import Extraction.Stack
import Extraction.Text.Blank
import Extraction.Text.Digits
import Extraction.Text.Quoted
import Extraction.Text.Split
import Extraction.Text.Utf8
import Extraction.Unicode.Age
import Extraction.Unicode.Alphabetic
import Extraction.Unicode.Binary
import Extraction.Unicode.Boundary
import Extraction.Unicode.CaseFold
import Extraction.Unicode.Category
import Extraction.Unicode.Printable
import Extraction.Unicode.Property
import Extraction.Unicode.Script
