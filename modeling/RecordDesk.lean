import RecordDesk.Action
import RecordDesk.Action.Execution
import RecordDesk.Api
import RecordDesk.Api.Address
import RecordDesk.Api.Message
import RecordDesk.Api.Route
import RecordDesk.Calendar
import RecordDesk.Calendar.Iso
import RecordDesk.Calendar.Reading
import RecordDesk.Calendar.Span
import RecordDesk.Condition
import RecordDesk.Desk
import RecordDesk.Document
import RecordDesk.Document.Display
import RecordDesk.Document.Pairs
import RecordDesk.Document.Reader
import RecordDesk.Fault
import RecordDesk.Form
import RecordDesk.Http
import RecordDesk.Ingest
import RecordDesk.Log
import RecordDesk.Numeric.Binary64
import RecordDesk.Numeric.ExactDecimal
import RecordDesk.Numeric.ExactDecimal.Arithmetic
import RecordDesk.Numeric.Number
import RecordDesk.Numeric.Shortest
import RecordDesk.Page
import RecordDesk.Page.Quantity
import RecordDesk.Proofs.Desk.Aside
import RecordDesk.Proofs.Desk.Sessions
import RecordDesk.Proofs.Desk.Steps
import RecordDesk.Proofs.Document.Load
import RecordDesk.Proofs.Document.NumberReads
import RecordDesk.Proofs.Document.Parts
import RecordDesk.Proofs.Document.TextReads
import RecordDesk.Proofs.Document.WrittenLoad
import RecordDesk.Proofs.Document.WrittenReads
import RecordDesk.Proofs.Ingest.Frame
import RecordDesk.Proofs.Ingest.Replacement
import RecordDesk.Proofs.Ingest.Stored
import RecordDesk.Proofs.Ingest.Transactions
import RecordDesk.Proofs.Numeric.Rounding
import RecordDesk.Proofs.Numeric.ShortestReads
import RecordDesk.Proofs.Rule.Aside
import RecordDesk.Proofs.Rule.Batch
import RecordDesk.Proofs.Rule.Frame
import RecordDesk.Proofs.Rule.Outcomes
import RecordDesk.Proofs.Rule.SideBySide
import RecordDesk.Proofs.Rule.Stages
import RecordDesk.Proofs.Rule.Tracing
import RecordDesk.Proofs.Rule.Verdicts
import RecordDesk.Proofs.Store.Names
import RecordDesk.Proofs.Store.Rows
import RecordDesk.Proofs.Store.Selection
import RecordDesk.Proofs.Template.Contained
import RecordDesk.Proofs.Template.Payload
import RecordDesk.Proofs.Template.Pieces
import RecordDesk.Proofs.Tenancy.Isolation
import RecordDesk.Proofs.Tenancy.Queries
import RecordDesk.Proofs.Tenancy.Requests
import RecordDesk.Proofs.Tenancy.Stores
import RecordDesk.Proofs.Tenancy.Twins
import RecordDesk.Proofs.Tenancy.Writes
import RecordDesk.Proofs.Widget.Predicates
import RecordDesk.Quantity
import RecordDesk.Rehearsal
import RecordDesk.Rule
import RecordDesk.Settings
import RecordDesk.Store
import RecordDesk.Store.Cell
import RecordDesk.Store.Construct
import RecordDesk.Store.Path
import RecordDesk.Store.Query
import RecordDesk.Template
import RecordDesk.Text.Blank
import RecordDesk.Text.Casing
import RecordDesk.Text.Casing.Table
import RecordDesk.Text.Digit
import RecordDesk.Text.Encoding
import RecordDesk.Text.Integer
import RecordDesk.Text.Numeral
import RecordDesk.Text.Printable
import RecordDesk.Text.Quoted
import RecordDesk.Value
import RecordDesk.Widget.Data
import RecordDesk.Widget.Plan
import RecordDesk.Widget.RawSpec
import RecordDesk.Widget.Spec
import RecordDesk.Widget.Trend
import RecordDesk.Proofs.Ingest.FailsAlone
import RecordDesk.Proofs.Desk.Ledger
import RecordDesk.Proofs.Ingest.Ledger
import RecordDesk.Proofs.Widget.References
import RecordDesk.Proofs.Widget.Refusals
import RecordDesk.Proofs.Rule.Without
import RecordDesk.Proofs.Numeric.Quotients
import RecordDesk.Proofs.Page.Covering
import RecordDesk.Proofs.Store.Listing
import RecordDesk.Proofs.Widget.Pages
import RecordDesk.Proofs.Api.Pages
import RecordDesk.Proofs.Numeric.Integers
import RecordDesk.Proofs.Rule.Answers
import RecordDesk.Proofs.Store.Answering
import RecordDesk.Proofs.Store.Figures
import RecordDesk.Proofs.Store.Gathering
import RecordDesk.Proofs.Widget.Trends
import RecordDesk.Proofs.Store.Groups
import RecordDesk.Proofs.Store.Charts
import RecordDesk.Proofs.Document.Compact
import RecordDesk.Proofs.Document.Equality
import RecordDesk.Proofs.Store.Cells
import RecordDesk.Proofs.Store.Filters
import RecordDesk.Proofs.Numeric.Order
import RecordDesk.Proofs.Rule.Operators
import RecordDesk.Proofs.Rule.IntegerConditions
import RecordDesk.Proofs.Text.Lowering
import RecordDesk.Proofs.Rule.Occurrences
import RecordDesk.Proofs.Value.Structure
import RecordDesk.Proofs.Template.Paths
import RecordDesk.Proofs.Template.SinglePass
import RecordDesk.Proofs.Action.Steps
import RecordDesk.Proofs.Action.Effects
import RecordDesk.Proofs.Rule.Turns
import RecordDesk.Proofs.Rule.Previews
import RecordDesk.Proofs.Document.Nesting
import RecordDesk.Proofs.Template.Leaves
import RecordDesk.Proofs.Widget.Accepted
import RecordDesk.Proofs.Widget.Sizes
import RecordDesk.Proofs.Widget.Edges
import RecordDesk.Proofs.Store.Lookups
import RecordDesk.Proofs.Store.Overflow
import RecordDesk.Proofs.Widget.Answers
import RecordDesk.Proofs.Document.Escapes
import RecordDesk.Proofs.Numeric.Whole
import RecordDesk.Proofs.Document.PlainTexts
import RecordDesk.Proofs.Store.Keys
import RecordDesk.Proofs.Store.Unmeasured
import RecordDesk.Proofs.Store.Exactness
import RecordDesk.Proofs.Store.Labels
import RecordDesk.Proofs.Widget.SystemColumns
import RecordDesk.Proofs.Numeric.Scaling
import RecordDesk.Proofs.Widget.Steepness
import RecordDesk.Proofs.Http.Bodies
import RecordDesk.Proofs.Http.Calls
import RecordDesk.Proofs.Http.Replies
import RecordDesk.Proofs.Ingest.Checks
import RecordDesk.Proofs.Ingest.Rejections
import RecordDesk.Proofs.Value.Wrapping
import RecordDesk.Proofs.Text.Numerals
import RecordDesk.Proofs.Value.Equivalence
import RecordDesk.Proofs.Rule.Membership
import RecordDesk.Proofs.Rule.NumberTexts
