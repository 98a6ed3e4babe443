import SheetRecall.Catalog.Basic
import SheetRecall.Catalog.Discovery
import SheetRecall.Catalog.Kind
import SheetRecall.Catalog.Ranking
import SheetRecall.Column.Name
import SheetRecall.Decimal.Binary
import SheetRecall.Decimal.Notation
import SheetRecall.Decimal.Reading
import SheetRecall.Decimal.Shortest
import SheetRecall.Document.Codec
import SheetRecall.Document.Decode
import SheetRecall.Document.Encode
import SheetRecall.Embedding.Embedder
import SheetRecall.Entries
import SheetRecall.Fault
import SheetRecall.Filter.Basic
import SheetRecall.Filter.Clause
import SheetRecall.Filter.Compile
import SheetRecall.Grounding.Basic
import SheetRecall.Grounding.Matching
import SheetRecall.Grounding.Run
import SheetRecall.Grounding.Script
import SheetRecall.Ident.Base64
import SheetRecall.Ident.Code
import SheetRecall.Json.Reader
import SheetRecall.Json.Writer
import SheetRecall.Legacy.Row
import SheetRecall.Legacy.Sniff
import SheetRecall.Memory.Basic
import SheetRecall.Memory.Fields
import SheetRecall.Memory.Index
import SheetRecall.Memory.Records
import SheetRecall.Memory.Search
import SheetRecall.Notice
import SheetRecall.Prompt.Basic
import SheetRecall.Prompt.Template
import SheetRecall.Query.Discovery
import SheetRecall.Query.Path
import SheetRecall.Query.Policy
import SheetRecall.Query.Relevance
import SheetRecall.Query.Statement
import SheetRecall.Record.Basic
import SheetRecall.Reply.JsonText
import SheetRecall.Reply.Match
import SheetRecall.Schema.Check
import SheetRecall.Schema.Issue
import SheetRecall.Service.App
import SheetRecall.Service.ChatModel
import SheetRecall.Service.Connection
import SheetRecall.Service.Endpoint
import SheetRecall.Service.Handle
import SheetRecall.Service.Http
import SheetRecall.Service.Path
import SheetRecall.Service.Settings
import SheetRecall.Store.Account
import SheetRecall.Store.Container
import SheetRecall.Store.Delivery
import SheetRecall.Task
import SheetRecall.Text.Case
import SheetRecall.Text.CaseIgnorableTable
import SheetRecall.Text.CasedTable
import SheetRecall.Text.CharClass
import SheetRecall.Text.Encoding
import SheetRecall.Text.LowerTable
import SheetRecall.Text.Quoted
import SheetRecall.Text.Ranges
import SheetRecall.Text.Slice
import SheetRecall.Text.UnprintableTable
import SheetRecall.Text.UpperTable
import SheetRecall.Text.WordTable
import SheetRecall.Value.Basic
import SheetRecall.Value.Convert
import SheetRecall.Value.Display
import SheetRecall.Value.Limits
import SheetRecall.Value.Number
import SheetRecall.Value.Same
import SheetRecall.Workbook.Archive
import SheetRecall.Workbook.Cell
import SheetRecall.Workbook.Chunk
import SheetRecall.Workbook.Decode
import SheetRecall.Workbook.Moment
import SheetRecall.Workbook.Options
import SheetRecall.Workbook.Sheet
import SheetRecall.Proofs.Filter.Conditions
import SheetRecall.Proofs.Filter.Meaning
import SheetRecall.Proofs.Filter.Grammar
import SheetRecall.Proofs.Query.Placeholders
import SheetRecall.Proofs.Entries
import SheetRecall.Proofs.Value.Same
import SheetRecall.Proofs.Document.Columns
import SheetRecall.Proofs.Decimal.Binary
import SheetRecall.Proofs.Decimal.Digits
import SheetRecall.Proofs.Decimal.Notation
import SheetRecall.Proofs.Decimal.Reading
import SheetRecall.Proofs.Json.Number
import SheetRecall.Proofs.Json.Text
import SheetRecall.Proofs.Json.Sorted
import SheetRecall.Proofs.Json.RoundTrip
import SheetRecall.Proofs.Ident.Base64
import SheetRecall.Proofs.Ident.Code
import SheetRecall.Proofs.Column.Stored
import SheetRecall.Proofs.Json.Read
import SheetRecall.Proofs.Document.Decode
import SheetRecall.Proofs.Document.Row
import SheetRecall.Proofs.Document.Reload
import SheetRecall.Proofs.Task
import SheetRecall.Proofs.Ranking
import SheetRecall.Proofs.Value.Order
import SheetRecall.Proofs.Filter.Pairs
import SheetRecall.Proofs.Filter.Grouping
import SheetRecall.Proofs.Filter.RoundTrip
import SheetRecall.Proofs.Grounding.Asking
import SheetRecall.Proofs.Grounding.Pass
import SheetRecall.Proofs.Grounding.Confidence
import SheetRecall.Proofs.Grounding.Returns
import SheetRecall.Proofs.Grounding.Shape
import SheetRecall.Proofs.Grounding.Independence
import SheetRecall.Proofs.Catalog.Ranking
import SheetRecall.Proofs.Document.Offered
import SheetRecall.Proofs.Json.Reordered
import SheetRecall.Proofs.Document.Selected
import SheetRecall.Proofs.Store.Account
import SheetRecall.Proofs.Store.Reading
import SheetRecall.Proofs.Memory.Records
import SheetRecall.Proofs.Memory.History
import SheetRecall.Proofs.Memory.LastWriter
import SheetRecall.Proofs.Catalog.Discovered
import SheetRecall.Proofs.Grounding.Kinds
import SheetRecall.Proofs.Memory.Sizes
import SheetRecall.Proofs.Store.Keyed
import SheetRecall.Proofs.Memory.Addressed
import SheetRecall.Proofs.Text.Lines
import SheetRecall.Proofs.Value.Display
import SheetRecall.Proofs.Legacy.Sniff
import SheetRecall.Proofs.Legacy.Lines
import SheetRecall.Proofs.Workbook.Text
import SheetRecall.Proofs.Workbook.Rows
import SheetRecall.Proofs.Workbook.Cells
import SheetRecall.Proofs.Workbook.Coverage
import SheetRecall.Proofs.Workbook.Names
import SheetRecall.Proofs.Workbook.Ids
import SheetRecall.Proofs.Workbook.Documents
import SheetRecall.Proofs.Workbook.Import
import SheetRecall.Proofs.Results
import SheetRecall.Proofs.Query.Independence
import SheetRecall.Proofs.Query.Counted
import SheetRecall.Proofs.Memory.Discovery
import SheetRecall.Proofs.Legacy.Heading
import SheetRecall.Proofs.Legacy.Sentence
import SheetRecall.Proofs.Reply.Prose
import SheetRecall.Proofs.Reply.Fences
import SheetRecall.Proofs.Catalog.Dictionary
import SheetRecall.Proofs.Catalog.Totals
import SheetRecall.Proofs.Decimal.Nearest
import SheetRecall.Proofs.Decimal.Rounding
import SheetRecall.Proofs.Decimal.Exact
import SheetRecall.Proofs.Decimal.Order
import SheetRecall.Proofs.Query.Relevance
import SheetRecall.Proofs.Memory.Hits
import SheetRecall.Proofs.Grounding.Search
import SheetRecall.Proofs.Histories
import SheetRecall.Proofs.Document.Given
import SheetRecall.Proofs.Record.Edits
import SheetRecall.Proofs.Service.Connection
import SheetRecall.Proofs.Column.Humps
import SheetRecall.Proofs.Column.Clean
