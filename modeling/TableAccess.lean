import TableAccess.Acceptance.Accounts
import TableAccess.Acceptance.Books
import TableAccess.Acceptance.Check
import TableAccess.Acceptance.Cities
import TableAccess.Acceptance.Suite
import TableAccess.Acceptance.Tickets
import TableAccess.Action
import TableAccess.Client.Basic
import TableAccess.Client.Transaction
import TableAccess.Coordinator
import TableAccess.Failure
import TableAccess.Fault
import TableAccess.Filter
import TableAccess.Link.Address
import TableAccess.Link.Form
import TableAccess.Link.Peer
import TableAccess.Link.Pool
import TableAccess.Link.Prepared
import TableAccess.Link.Settings
import TableAccess.Link.Target
import TableAccess.Link.Url
import TableAccess.Number.Approximate
import TableAccess.Number.Binary
import TableAccess.Number.Decimal
import TableAccess.Number.Integer
import TableAccess.Number.Layout
import TableAccess.Number.Power
import TableAccess.Number.Reading
import TableAccess.Number.Rounding
import TableAccess.Number.Shortest
import TableAccess.Proofs.Number.Integers
import TableAccess.Proofs.Predicate.Bound
import TableAccess.Proofs.Predicate.Contents
import TableAccess.Proofs.Predicate.Formula
import TableAccess.Proofs.Predicate.Inline
import TableAccess.Proofs.Predicate.Literals
import TableAccess.Proofs.Predicate.Liveness
import TableAccess.Proofs.Predicate.Matches
import TableAccess.Proofs.Predicate.Meaning
import TableAccess.Proofs.Predicate.Parts
import TableAccess.Proofs.Predicate.Places
import TableAccess.Proofs.Predicate.Reading
import TableAccess.Proofs.Predicate.Tokens
import TableAccess.Proofs.Record.SetFields
import TableAccess.Proofs.Record.Survival
import TableAccess.Proofs.Repository.Batches
import TableAccess.Proofs.Repository.Outcomes
import TableAccess.Proofs.Schema.DeclaredShapes
import TableAccess.Proofs.Search.Distinct
import TableAccess.Proofs.Search.Paging
import TableAccess.Proofs.Search.Stopping
import TableAccess.Proofs.Statement.Arguments
import TableAccess.Proofs.Statement.Assignments
import TableAccess.Proofs.Statement.BoundValues
import TableAccess.Proofs.Statement.Builders
import TableAccess.Proofs.Statement.Escaping
import TableAccess.Proofs.Statement.Independence
import TableAccess.Proofs.Statement.Lexemes
import TableAccess.Proofs.Statement.Names
import TableAccess.Proofs.Statement.Operations
import TableAccess.Proofs.Statement.Outline
import TableAccess.Proofs.Statement.Parallel
import TableAccess.Proofs.Statement.Quotation
import TableAccess.Proofs.Statement.Searching
import TableAccess.Proofs.Statement.Shapes
import TableAccess.Proofs.Text.Cuts
import TableAccess.Proofs.Text.Numeral
import TableAccess.Proofs.Text.Percent
import TableAccess.Proofs.Text.SpacedWords
import TableAccess.Proofs.Text.Utf8
import TableAccess.Proofs.Time.ClockGrammar
import TableAccess.Proofs.Time.IntervalDisplay
import TableAccess.Proofs.Time.IntervalGrammar
import TableAccess.Proofs.Time.IntervalText
import TableAccess.Proofs.Time.IntervalWords
import TableAccess.Proofs.Time.Lengths
import TableAccess.Proofs.Time.ZonedClockGrammar
import TableAccess.Proofs.Transaction.Calls
import TableAccess.Proofs.Transaction.Course
import TableAccess.Proofs.Transaction.Custody
import TableAccess.Proofs.Transaction.Discipline
import TableAccess.Proofs.Transaction.Exchange
import TableAccess.Proofs.Transaction.Joining
import TableAccess.Proofs.Transaction.Levels
import TableAccess.Proofs.Transaction.Reuse
import TableAccess.Proofs.Transaction.Server
import TableAccess.Proofs.Transaction.Steps
import TableAccess.Proofs.Transaction.Units
import TableAccess.Proofs.Value.Conversion
import TableAccess.Proofs.Value.Narrowing
import TableAccess.Proofs.Wire.Arrays
import TableAccess.Proofs.Wire.BoundIntervals
import TableAccess.Proofs.Wire.CarriedDays
import TableAccess.Proofs.Wire.EqualIntervals
import TableAccess.Proofs.Wire.Images
import TableAccess.Proofs.Wire.Instants
import TableAccess.Proofs.Wire.IntegerColumns
import TableAccess.Proofs.Wire.Nulls
import TableAccess.Proofs.Wire.Numerics
import TableAccess.Proofs.Wire.TimesOfDay
import TableAccess.Proofs.Wire.Words
import TableAccess.Proofs.Wire.Writing
import TableAccess.Query
import TableAccess.Record
import TableAccess.Rehearsal.Call
import TableAccess.Rehearsal.Records
import TableAccess.Rehearsal.Run
import TableAccess.Rehearsal.Server
import TableAccess.Rehearsal.Step
import TableAccess.Repository.Basic
import TableAccess.Repository.Batch
import TableAccess.Repository.Search
import TableAccess.Row
import TableAccess.Schema.Code
import TableAccess.Schema.Declaration
import TableAccess.Schema.Mapping
import TableAccess.Schema.Shape
import TableAccess.Schema.Token
import TableAccess.Schema.Tree
import TableAccess.Statement.Clause
import TableAccess.Statement.Clauses
import TableAccess.Statement.Dialect
import TableAccess.Statement.Predicate
import TableAccess.Statement.Write
import TableAccess.Table
import TableAccess.Text.Blank
import TableAccess.Text.Digits
import TableAccess.Text.Excerpt
import TableAccess.Text.Joined
import TableAccess.Text.Percent
import TableAccess.Text.Printable
import TableAccess.Text.Quoted
import TableAccess.Text.Slice
import TableAccess.Text.Split
import TableAccess.Text.Utf8
import TableAccess.Text.Words
import TableAccess.Time.Clock
import TableAccess.Time.Date
import TableAccess.Time.Interval
import TableAccess.Time.Reading
import TableAccess.Time.ZonedClock
import TableAccess.Uuid
import TableAccess.Value.Basic
import TableAccess.Value.FieldType
import TableAccess.Value.Kind
import TableAccess.Value.TypeName
import TableAccess.Wire.Array
import TableAccess.Wire.Bytes
import TableAccess.Wire.Catalog
import TableAccess.Wire.Decode
import TableAccess.Wire.Encode
import TableAccess.Wire.Error
import TableAccess.Wire.Instant
import TableAccess.Wire.Numeric
import TableAccess.Wire.SqlType
import TableAccess.Wire.Write
import TableAccess.World
import TableAccess.Proofs.Statement.Drafts
import TableAccess.Proofs.Link.Addresses
import TableAccess.Proofs.Link.Parameters
import TableAccess.Proofs.Repository.Streams
import TableAccess.Proofs.Statement.Framing
import TableAccess.Proofs.Statement.Separators
