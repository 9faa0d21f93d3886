import FormDispatch.Client.Coding
import FormDispatch.Client.Exchange
import FormDispatch.Client.Message
import FormDispatch.Client.Outbound
import FormDispatch.Client.Redirect
import FormDispatch.Client.Traffic
import FormDispatch.Command.Basic
import FormDispatch.Command.Document
import FormDispatch.Command.Template
import FormDispatch.Document.Basic
import FormDispatch.Document.Display
import FormDispatch.Document.Integer
import FormDispatch.Document.Reader
import FormDispatch.Document.Told
import FormDispatch.Document.Writer
import FormDispatch.Entries
import FormDispatch.Form
import FormDispatch.Logging
import FormDispatch.Main
import FormDispatch.Number.Binary64
import FormDispatch.Number.Decimal
import FormDispatch.Number.Numeral
import FormDispatch.Operation
import FormDispatch.Packed.Block
import FormDispatch.Packed.Code
import FormDispatch.Packed.Container
import FormDispatch.Path
import FormDispatch.Problem
import FormDispatch.Proofs.Client.Body
import FormDispatch.Proofs.Command.Failure
import FormDispatch.Proofs.Command.Listing
import FormDispatch.Proofs.Command.Template
import FormDispatch.Proofs.Document.Numeral
import FormDispatch.Proofs.Document.Pairing
import FormDispatch.Proofs.Document.RoundTrip
import FormDispatch.Proofs.Entries
import FormDispatch.Proofs.Form
import FormDispatch.Proofs.Form.Locality
import FormDispatch.Proofs.Number.DecimalText
import FormDispatch.Proofs.Number.Digits
import FormDispatch.Proofs.Number.Rounding
import FormDispatch.Proofs.Query.CallPlace
import FormDispatch.Proofs.Query.Calls
import FormDispatch.Proofs.Query.Completeness
import FormDispatch.Proofs.Query.Depth
import FormDispatch.Proofs.Query.Escaping
import FormDispatch.Proofs.Query.Extension
import FormDispatch.Proofs.Query.Failure
import FormDispatch.Proofs.Query.Grammar
import FormDispatch.Proofs.Query.Lexeme
import FormDispatch.Proofs.Query.LongInteger
import FormDispatch.Proofs.Query.Nesting
import FormDispatch.Proofs.Query.PlainText
import FormDispatch.Proofs.Query.Progress
import FormDispatch.Proofs.Query.QuotedPlaces
import FormDispatch.Proofs.Query.Refusal
import FormDispatch.Proofs.Query.Soundness
import FormDispatch.Proofs.Query.StandardText
import FormDispatch.Proofs.Query.WrittenText
import FormDispatch.Proofs.Result
import FormDispatch.Proofs.Run.Bindings
import FormDispatch.Proofs.Run.CommandRun
import FormDispatch.Proofs.Run.DecodedRows
import FormDispatch.Proofs.Run.Destruction
import FormDispatch.Proofs.Run.Filling
import FormDispatch.Proofs.Run.Lifecycle
import FormDispatch.Proofs.Run.NamedSheet
import FormDispatch.Proofs.Run.Rendering
import FormDispatch.Proofs.Run.Requests
import FormDispatch.Proofs.Run.RowWriting
import FormDispatch.Proofs.Run.Secrecy
import FormDispatch.Proofs.Run.Service
import FormDispatch.Proofs.Run.SheetRun
import FormDispatch.Proofs.Run.Templates
import FormDispatch.Proofs.Run.Work
import FormDispatch.Proofs.Settings.UserFile
import FormDispatch.Proofs.Sheet.Addressing
import FormDispatch.Proofs.Sheet.ColumnNumbering
import FormDispatch.Proofs.Sheet.DistinctKeys
import FormDispatch.Proofs.Sheet.FieldReading
import FormDispatch.Proofs.Sheet.IntegerFields
import FormDispatch.Proofs.Sheet.Keys
import FormDispatch.Proofs.Sheet.Mismatches
import FormDispatch.Proofs.Sheet.Paging
import FormDispatch.Proofs.Sheet.Results
import FormDispatch.Proofs.Sheet.RowRanges
import FormDispatch.Proofs.Sheet.RowTexts
import FormDispatch.Proofs.Sheet.ValuesUrl
import FormDispatch.Proofs.Sheet.WriteBack
import FormDispatch.Proofs.Sheet.WrittenRows
import FormDispatch.Proofs.Substitution.Cutting
import FormDispatch.Proofs.Substitution.Fields
import FormDispatch.Proofs.Substitution.Placement
import FormDispatch.Proofs.Substitution.Splice
import FormDispatch.Proofs.Substitution.Template
import FormDispatch.Proofs.Text.Blank
import FormDispatch.Proofs.Text.Cut
import FormDispatch.Proofs.Text.Percent
import FormDispatch.Proofs.Text.Utf8
import FormDispatch.Query
import FormDispatch.Query.Call
import FormDispatch.Query.DecimalText
import FormDispatch.Query.Flaw
import FormDispatch.Query.Moment
import FormDispatch.Query.Reader
import FormDispatch.Run.Call
import FormDispatch.Run.CommandRun
import FormDispatch.Run.Envelope
import FormDispatch.Run.Event
import FormDispatch.Run.Service
import FormDispatch.Run.Session
import FormDispatch.Run.SheetRun
import FormDispatch.Run.State
import FormDispatch.Screen.Markup
import FormDispatch.Screen.Panel
import FormDispatch.Screen.Table
import FormDispatch.Screen.Wrap
import FormDispatch.Settings.Assignment
import FormDispatch.Settings.Basic
import FormDispatch.Settings.Check
import FormDispatch.Settings.Location
import FormDispatch.Settings.Source
import FormDispatch.Settings.UserFile
import FormDispatch.Sheet.Catalog
import FormDispatch.Sheet.Column
import FormDispatch.Sheet.Config
import FormDispatch.Sheet.File
import FormDispatch.Sheet.Header
import FormDispatch.Sheet.Method
import FormDispatch.Sheet.Range
import FormDispatch.Sheet.Row
import FormDispatch.Sheet.RowFetching
import FormDispatch.Sheet.RowWriting
import FormDispatch.Sheet.Tab
import FormDispatch.Shell.Arguments
import FormDispatch.Shell.Program
import FormDispatch.Shell.View
import FormDispatch.Substitution.Fields
import FormDispatch.Substitution.Fill
import FormDispatch.Substitution.Piece
import FormDispatch.Substitution.Quotation
import FormDispatch.Substitution.Value
import FormDispatch.Text.Base64
import FormDispatch.Text.Blank
import FormDispatch.Text.Case
import FormDispatch.Text.Cells
import FormDispatch.Text.Digit
import FormDispatch.Text.Lines
import FormDispatch.Text.Percent
import FormDispatch.Text.Printable
import FormDispatch.Text.Quoted
import FormDispatch.Text.Utf8
import FormDispatch.Url.Basic
import FormDispatch.Url.Host
import FormDispatch.Url.Label
import FormDispatch.Url.Reader
import FormDispatch.Url.Reference
import FormDispatch.Validation
import FormDispatch.Validation.Integer
import FormDispatch.Wire.Header
import FormDispatch.Wire.Reason
import FormDispatch.Wire.Request
import FormDispatch.Wire.Response
