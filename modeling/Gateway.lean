import Gateway.Cache.Header
import Gateway.Cache.Policy
import Gateway.Command.Arguments
import Gateway.Command.Error
import Gateway.Command.Request
import Gateway.Command.Run
import Gateway.Command.Usage
import Gateway.Config
import Gateway.Config.Reader
import Gateway.Decimal.Double
import Gateway.Decimal.Layout
import Gateway.Decimal.Shortest
import Gateway.Dictionary
import Gateway.Exchange
import Gateway.Files
import Gateway.Filter.Fault
import Gateway.Filter.Projection
import Gateway.Filter.Results
import Gateway.Filter.Tree
import Gateway.Json.Basic
import Gateway.Json.Dump
import Gateway.Json.Members
import Gateway.Json.Numeral
import Gateway.Json.Printer
import Gateway.Json.Reader
import Gateway.Json.Shape
import Gateway.Json.Token
import Gateway.Log.Entry
import Gateway.Log.Event
import Gateway.Log.Scope
import Gateway.Main
import Gateway.Pattern
import Gateway.Pattern.Classes
import Gateway.Pattern.Expr
import Gateway.Pattern.Look
import Gateway.Pattern.Machine
import Gateway.Pattern.Occurrence
import Gateway.Pattern.Octets
import Gateway.Pattern.Reader
import Gateway.Program
import Gateway.Query.Parameter
import Gateway.Query.Selector
import Gateway.Query.Statement
import Gateway.Record.Assembly
import Gateway.Record.Options
import Gateway.Reports
import Gateway.Resource.Basic
import Gateway.Resource.Body
import Gateway.Resource.Snapshot
import Gateway.Resource.Wire
import Gateway.Text.Blank
import Gateway.Text.Dump
import Gateway.Text.Hexadecimal
import Gateway.Text.Quoted
import Gateway.Text.Utf8
import Gateway.Unicode.Age
import Gateway.Unicode.Category
import Gateway.Unicode.CharSet
import Gateway.Unicode.DecimalDigit
import Gateway.Unicode.Folding
import Gateway.Unicode.Property
import Gateway.Unicode.Recent
import Gateway.Unicode.Script
import Gateway.Unicode.Segmentation
import Gateway.Proofs.Text.Utf8
import Gateway.Proofs.Text.Ranges
import Gateway.Proofs.Pattern.Occurrence
import Gateway.Proofs.Pattern.Words
import Gateway.Proofs.Json.Reading
import Gateway.Proofs.Json.Scanning
import Gateway.Proofs.Json.Doubles
import Gateway.Proofs.Json.Lexemes
import Gateway.Proofs.Json.Phrases
import Gateway.Proofs.Json.Recognition
import Gateway.Proofs.Json.Spelling
import Gateway.Proofs.Json.Printing
import Gateway.Proofs.Json.Shape
import Gateway.Proofs.Json.TextMembers
import Gateway.Proofs.Log.Fields
import Gateway.Proofs.Log.Lines
import Gateway.Proofs.Filter.Outcome
import Gateway.Proofs.Filter.Edits
import Gateway.Proofs.Filter.Fields
import Gateway.Proofs.Filter.Repetition
import Gateway.Proofs.Filter.Leaves
import Gateway.Proofs.Filter.Selection
import Gateway.Proofs.Filter.Disclosure
import Gateway.Proofs.Filter.Agreement
import Gateway.Proofs.Filter.Faults
import Gateway.Proofs.Filter.Containment
import Gateway.Proofs.Filter.Entries
import Gateway.Proofs.Filter.Statements
import Gateway.Proofs.Filter.Reach
import Gateway.Proofs.Filter.Traversal
import Gateway.Proofs.Filter.Hiding
import Gateway.Proofs.Filter.Provenance
import Gateway.Proofs.Filter.Reapplication
import Gateway.Proofs.Filter.FieldOrder
import Gateway.Proofs.Filter.Interchange
import Gateway.Proofs.Filter.Decoding
import Gateway.Proofs.Query.Chaining
import Gateway.Proofs.Query.Paths
import Gateway.Proofs.Resource.Decoded
import Gateway.Proofs.Resource.Wire
import Gateway.Proofs.Cache.Header
import Gateway.Proofs.Cache.Patterns
import Gateway.Proofs.Cache.Restriction
import Gateway.Proofs.Record.Caching
import Gateway.Proofs.Record.Visiting
import Gateway.Proofs.Record.Runs
import Gateway.Proofs.Command.FirstLine
import Gateway.Proofs.Command.Reception
import Gateway.Proofs.Command.Filtering
import Gateway.Proofs.Command.Assembly
import Gateway.Proofs.Command.Secrecy
import Gateway.Proofs.Command.Protocol
import Gateway.Proofs.Command.Tracing
import Gateway.Proofs.Command.Program
