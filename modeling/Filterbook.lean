import Filterbook.Text.Blank
import Filterbook.Text.Split
import Filterbook.Text.Case
import Filterbook.Text.Quoted
import Filterbook.Text.Order
import Filterbook.Number.Power
import Filterbook.Number.Digits
import Filterbook.Number.Binary64
import Filterbook.Number.Shortest
import Filterbook.Number.FloatText
import Filterbook.Number.Decimal
import Filterbook.Calendar.Date
import Filterbook.Calendar.Time
import Filterbook.Calendar.Pattern
import Filterbook.Uuid
import Filterbook.Json.Basic
import Filterbook.Json.NumberText
import Filterbook.Json.Token
import Filterbook.Json.Parser
import Filterbook.Json.Printer
import Filterbook.Toml.Scalar
import Filterbook.Toml.Table
import Filterbook.Toml.Reader
import Filterbook.Pattern.Basic
import Filterbook.Pattern.Reader
import Filterbook.Pattern.Match
import Filterbook.Kind
import Filterbook.Value.Basic
import Filterbook.Value.Conversion
import Filterbook.Json.Record
import Filterbook.Roster
import Filterbook.Registry.Field
import Filterbook.Registry.Basic
import Filterbook.Registry.Error
import Filterbook.Registry.Resolved
import Filterbook.Registry.Validation
import Filterbook.Filter.Basic
import Filterbook.Filter.Sql
import Filterbook.Filter.Matching
import Filterbook.Operator
import Filterbook.Catalog
import Filterbook.Clause.Basic
import Filterbook.Clause.Error
import Filterbook.Clause.Sequence
import Filterbook.Clause.Validation
import Filterbook.QueryError
import Filterbook.SavedFilter
import Filterbook.Filter.Compilation
import Filterbook.FieldData
import Filterbook.ListingOrder
import Filterbook.Access.Settings
import Filterbook.Access.Basic
import Filterbook.Access.Scope
import Filterbook.Repository
import Filterbook.Records
import Filterbook.Service.Call
import Filterbook.Service.Fault
import Filterbook.Service.Basic
import Filterbook.Settings.Reference
import Filterbook.Settings.Basic
import Filterbook.LogSettings
import Filterbook.Proofs.Filter.Combinators
import Filterbook.Proofs.Filter.Simplified
import Filterbook.Proofs.Filter.Compilation
import Filterbook.Proofs.Filter.Condition
import Filterbook.Proofs.Filter.Selection
import Filterbook.Proofs.Clause.Stored
import Filterbook.Proofs.Access.Visibility
import Filterbook.Proofs.Access.Widening
import Filterbook.Proofs.Service.Operations
import Filterbook.Proofs.Service.Session
import Filterbook.Proofs.Service.Reachable
import Filterbook.Proofs.Service.Denial
import Filterbook.Proofs.Service.Listing
import Filterbook.Proofs.Filter.Substring
import Filterbook.Proofs.Filter.Operands
import Filterbook.Proofs.Filter.Placeholders
import Filterbook.Proofs.Filter.Reading
import Filterbook.Proofs.Clause.Order
import Filterbook.Proofs.Clause.Groups
import Filterbook.Proofs.Filter.NormalForm
import Filterbook.Proofs.Clause.Batch
import Filterbook.Proofs.Registry.Validity
import Filterbook.Proofs.Registry.Paths
import Filterbook.Proofs.Clause.Menu
import Filterbook.Proofs.Service.Footprint
import Filterbook.Proofs.Service.Interleaving
import Filterbook.Proofs.Service.Stages
import Filterbook.Proofs.Service.Race
import Filterbook.Proofs.Service.Removal
import Filterbook.Proofs.Service.Discarding
import Filterbook.Proofs.Settings.Environments
import Filterbook.Proofs.Settings.References
import Filterbook.Proofs.Listing.Comparison
import Filterbook.Proofs.Listing.Arrival
import Filterbook.Proofs.Filter.Patterns
import Filterbook.Proofs.Records.Distinct
import Filterbook.Proofs.Json.Tokens
import Filterbook.Proofs.Json.Reading
import Filterbook.Proofs.Registry.RoundTrip
import Filterbook.Proofs.Registry.Resolution
import Filterbook.Proofs.Filter.Reached
import Filterbook.Proofs.Filter.Conforming
import Filterbook.Proofs.Filter.Missing
import Filterbook.Proofs.Number.Rounding
import Filterbook.Proofs.Number.Written
import Filterbook.Proofs.Number.Integers
import Filterbook.Proofs.Calendar.DayNumber
import Filterbook.Proofs.Calendar.Reading
import Filterbook.Proofs.Calendar.FullForm
import Filterbook.Proofs.Calendar.Written
import Filterbook.Proofs.Value.Place
import Filterbook.Proofs.Value.Conversion
import Filterbook.Proofs.Value.Integers
import Filterbook.Proofs.Value.Days
import Filterbook.Proofs.Value.DateTimes
import Filterbook.Proofs.Value.Zones
import Filterbook.Proofs.Value.Displayed
import Filterbook.Proofs.Filter.Ordering
import Filterbook.Proofs.Text.Blank
import Filterbook.Proofs.Text.Identifiers
import Filterbook.Proofs.Filter.StoredDays
import Filterbook.Proofs.Filter.StoredText
import Filterbook.Proofs.Filter.WideIntegers
import Filterbook.Proofs.Json.Equality
import Filterbook.Proofs.Filter.Documents
import Filterbook.Proofs.Filter.Thresholds
import Filterbook.Proofs.Text.Case
import Filterbook.Proofs.Filter.LetterCase
import Filterbook.Proofs.Service.Offers
import Filterbook.Proofs.Service.Serialized
import Filterbook.Proofs.Clause.Discarded
import Filterbook.Proofs.Catalog.Changes
