import JsonQuery.Compression.Bits
import JsonQuery.Compression.Checksum
import JsonQuery.Compression.Envelope
import JsonQuery.Compression.Inflate
import JsonQuery.Compression.PrefixCode
import JsonQuery.Config.Settings
import JsonQuery.Console.Arguments
import JsonQuery.Console.Command
import JsonQuery.Console.Listing
import JsonQuery.Console.Output
import JsonQuery.Console.Repl
import JsonQuery.Console.Statement
import JsonQuery.Dataset.Basic
import JsonQuery.Dataset.Flatten
import JsonQuery.Dataset.Schema
import JsonQuery.Export.Basic
import JsonQuery.Export.Rows
import JsonQuery.Fault
import JsonQuery.Fetch.Access
import JsonQuery.Fetch.Basic
import JsonQuery.Fetch.Response
import JsonQuery.Filter.Basic
import JsonQuery.Filter.Column
import JsonQuery.Json.Nesting
import JsonQuery.Json.Printer
import JsonQuery.Json.Reader
import JsonQuery.Log.Entry
import JsonQuery.Log.Message
import JsonQuery.Log.Moment
import JsonQuery.Log.Placeholder
import JsonQuery.Log.Record
import JsonQuery.Log.Setup
import JsonQuery.Main
import JsonQuery.Number.Basic
import JsonQuery.Number.Binary64
import JsonQuery.Number.Decimal
import JsonQuery.Number.Reading
import JsonQuery.Number.Rounding
import JsonQuery.Proofs.Outcome
import JsonQuery.Query.Basic
import JsonQuery.Query.Clause
import JsonQuery.Query.Condition
import JsonQuery.Query.Group
import JsonQuery.Query.Parser
import JsonQuery.Query.Printer
import JsonQuery.Query.Report
import JsonQuery.Query.Run
import JsonQuery.Session.Basic
import JsonQuery.Session.Endpoint
import JsonQuery.Session.History
import JsonQuery.Session.Sample
import JsonQuery.Session.Workspace
import JsonQuery.Sorting.Basic
import JsonQuery.Sorting.Merge
import JsonQuery.Sorting.Search
import JsonQuery.Sql.Character
import JsonQuery.Sql.Lexeme
import JsonQuery.Sql.Numeral
import JsonQuery.Sql.Phrase
import JsonQuery.Sql.Token
import JsonQuery.Storage.Directory
import JsonQuery.Table.Basic
import JsonQuery.Table.Csv
import JsonQuery.Table.Infer
import JsonQuery.Table.Printer
import JsonQuery.Table.Sheet
import JsonQuery.Text.Base64
import JsonQuery.Text.Basic
import JsonQuery.Text.Case
import JsonQuery.Text.CaseTable
import JsonQuery.Text.Character
import JsonQuery.Text.Charset
import JsonQuery.Text.CodeRange
import JsonQuery.Text.Composition
import JsonQuery.Text.CompositionTable
import JsonQuery.Text.DigitTable
import JsonQuery.Text.Direction
import JsonQuery.Text.Encoding
import JsonQuery.Text.Half
import JsonQuery.Text.HostTable
import JsonQuery.Text.Literal
import JsonQuery.Text.MarkTable
import JsonQuery.Text.PrintableTable
import JsonQuery.Text.Similarity
import JsonQuery.Text.WordTable
import JsonQuery.Url.Address
import JsonQuery.Url.Escape
import JsonQuery.Url.HostName
import JsonQuery.Url.Label
import JsonQuery.Url.Parts
import JsonQuery.Url.Problem
import JsonQuery.Url.Punycode
import JsonQuery.Url.Redirect
import JsonQuery.Url.Request
import JsonQuery.Value.Basic
import JsonQuery.Value.Display
import JsonQuery.Value.Order
import JsonQuery.Value.Text
import JsonQuery.Yaml.Basic
import JsonQuery.Yaml.Cursor
import JsonQuery.Yaml.Date
import JsonQuery.Yaml.Node
import JsonQuery.Yaml.Reader
import JsonQuery.Yaml.Resolve
import JsonQuery.Yaml.Scalar
import JsonQuery.Yaml.Token
import JsonQuery.Proofs.Sorting.Rearrangement
import JsonQuery.Proofs.Sorting.Boundary
import JsonQuery.Proofs.Sorting.Merging
import JsonQuery.Proofs.Sorting.Stability
import JsonQuery.Proofs.Query.Sorted
import JsonQuery.Proofs.Query.Selection
import JsonQuery.Proofs.Query.Grouping
import JsonQuery.Proofs.Query.Aggregation
import JsonQuery.Proofs.Query.Cut
import JsonQuery.Proofs.Query.Grammar
import JsonQuery.Proofs.Query.Silent
import JsonQuery.Proofs.Dataset.Flat
import JsonQuery.Proofs.Query.Again
import JsonQuery.Proofs.Session.Coherence
import JsonQuery.Proofs.Session.Interruption
import JsonQuery.Proofs.Fetch.Requests
import JsonQuery.Proofs.Session.Display
import JsonQuery.Proofs.Sql.Lexing
import JsonQuery.Proofs.Sql.Quoted
import JsonQuery.Proofs.Sql.Word
import JsonQuery.Proofs.Sql.Piece
import JsonQuery.Proofs.Query.Literal
import JsonQuery.Proofs.Query.ColumnName
import JsonQuery.Proofs.Query.Written
import JsonQuery.Proofs.Query.Reading
import JsonQuery.Proofs.Query.Rendering
import JsonQuery.Proofs.Sql.Numeral
import JsonQuery.Proofs.Query.Refusal
import JsonQuery.Proofs.Query.ClauseOrder
import JsonQuery.Proofs.Sql.Ends
import JsonQuery.Proofs.Sql.Layout
import JsonQuery.Proofs.Dataset.Views
import JsonQuery.Proofs.Dataset.Leaves
import JsonQuery.Proofs.Value.Mixed
import JsonQuery.Proofs.Query.Mixed
import JsonQuery.Proofs.Console.Typing
import JsonQuery.Proofs.Sorting.Failing
import JsonQuery.Proofs.Sql.Trailing
import JsonQuery.Proofs.Query.Failing
import JsonQuery.Proofs.Export.Failing
import JsonQuery.Proofs.Console.Ending
import JsonQuery.Proofs.Sql.TrailingWords
import JsonQuery.Proofs.Query.Terminated
import JsonQuery.Proofs.Console.Agreement
import JsonQuery.Proofs.Dataset.Nested
import JsonQuery.Proofs.Query.Like
import JsonQuery.Proofs.Number.Rounding
import JsonQuery.Proofs.Number.Reading
import JsonQuery.Proofs.Query.Equality
import JsonQuery.Proofs.Query.Extremes
import JsonQuery.Proofs.Session.Recency
import JsonQuery.Proofs.Session.Answer
import JsonQuery.Proofs.Query.Integers
import JsonQuery.Proofs.Query.GroupOrder
import JsonQuery.Proofs.Query.FlatAnswer
import JsonQuery.Proofs.Export.Flat
import JsonQuery.Proofs.Table.Cells
import JsonQuery.Proofs.Value.Writable
import JsonQuery.Proofs.Table.Storing
import JsonQuery.Proofs.Fetch.Reporting
import JsonQuery.Proofs.Filter.Ordering
import JsonQuery.Proofs.Console.Turns
import JsonQuery.Proofs.Json.Lexeme
import JsonQuery.Proofs.Json.Roundtrip
import JsonQuery.Proofs.Sql.Identifier
import JsonQuery.Proofs.Query.BareName
import JsonQuery.Proofs.Filter.Composing
import JsonQuery.Proofs.Query.Limit
import JsonQuery.Proofs.Table.Printing
import JsonQuery.Proofs.Table.LineBreaks
import JsonQuery.Proofs.Config.Keys
import JsonQuery.Proofs.Config.Sections
import JsonQuery.Proofs.Number.Nearest
import JsonQuery.Proofs.Number.Shortest
import JsonQuery.Proofs.Json.Ascii
import JsonQuery.Proofs.Json.OneLine
import JsonQuery.Proofs.Json.FloatText
import JsonQuery.Proofs.Log.Lines
