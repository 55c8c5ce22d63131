import RecordQuery.Files.Folder
import RecordQuery.Main
import RecordQuery.Proofs.Filter.Literals
import RecordQuery.Proofs.Filter.PathOperands
import RecordQuery.Proofs.Filter.Names
import RecordQuery.Proofs.Filter.Operands
import RecordQuery.Proofs.Filter.Conditions
import RecordQuery.Proofs.Filter.Parsing
import RecordQuery.Proofs.Number.Digits
import RecordQuery.Proofs.Number.Rounding
import RecordQuery.Proofs.Number.ShortestDecimal
import RecordQuery.Proofs.Number.DecimalTexts
import RecordQuery.Proofs.Filter.PrintedOperands
import RecordQuery.Proofs.Filter.Reassociation
import RecordQuery.Proofs.Filter.RoundTrip
import RecordQuery.Proofs.Json.Fields
import RecordQuery.Proofs.Path.Projection
import RecordQuery.Proofs.Query.CursorWalk
import RecordQuery.Proofs.Query.ProjectedPaging
import RecordQuery.Proofs.Number.Order
import RecordQuery.Proofs.Order.Transitivity
import RecordQuery.Proofs.Filter.Keeping
import RecordQuery.Proofs.Query.Sorting
import RecordQuery.Proofs.Query.PagedRuns
import RecordQuery.Proofs.Text.Utf8
import RecordQuery.Proofs.FormEncoding
import RecordQuery.Proofs.Query.CursorRequests
import RecordQuery.Proofs.Json.Scalars
import RecordQuery.Proofs.Json.RoundTrip
import RecordQuery.Proofs.Service.Results
import RecordQuery.Proofs.Service.CursorSession
import RecordQuery.Proofs.Service.Runs
import RecordQuery.Proofs.Store.Ids
import RecordQuery.Proofs.Store.Journal
import RecordQuery.Proofs.Service.LastWrite
import RecordQuery.Proofs.Filter.Mismatches
import RecordQuery.Proofs.Query.PageArithmetic
import RecordQuery.Proofs.Query.BoundQueries
import RecordQuery.Proofs.Schema.Conformance
import RecordQuery.Proofs.Schema.Exactness
import RecordQuery.Proofs.Filter.Dependence
import RecordQuery.Proofs.Path.Exactness
import RecordQuery.Proofs.Json.Reordering
import RecordQuery.Proofs.Path.Composition
import RecordQuery.Proofs.Json.Reading
import RecordQuery.Proofs.CommandLine.QueryCommand
import RecordQuery.Proofs.Query.Arrangement
import RecordQuery.Proofs.Query.SuccessiveSorting
import RecordQuery.Proofs.Filter.Fusion
import RecordQuery.Proofs.Query.FilteredSorting
import RecordQuery.Proofs.FirstFailure
import RecordQuery.Proofs.Text.Separated
import RecordQuery.Proofs.Query.SortKeyTexts
import RecordQuery.Proofs.Query.PathListTexts
import RecordQuery.Proofs.Query.CountedParameters
import RecordQuery.Proofs.Filter.Positions
import RecordQuery.Proofs.Query.QueryStrings
import RecordQuery.Proofs.Filter.FirstMismatch
import RecordQuery.Proofs.Order.Comparisons
import RecordQuery.Proofs.Text.Utf16
import RecordQuery.Proofs.Order.StructuralEquality
import RecordQuery.Proofs.Query.NextPage
import RecordQuery.Proofs.Query.NumberedPages
import RecordQuery.Proofs.Store.Places
import RecordQuery.Proofs.Store.Batches
import RecordQuery.Proofs.Service.Effects
import RecordQuery.Proofs.Service.IdForms
import RecordQuery.Proofs.Schema.SampleOrder
import RecordQuery.Proofs.Number.Integers
import RecordQuery.Proofs.Filter.Integers
import RecordQuery.Proofs.Text.Search
import RecordQuery.Proofs.Filter.StringSearch
import RecordQuery.Proofs.Calendar.Months
import RecordQuery.Proofs.Calendar.Moments
import RecordQuery.Proofs.Path.Lookup
import RecordQuery.Proofs.Calendar.Timestamps
import RecordQuery.Proofs.Filter.Dates
import RecordQuery.Proofs.Json.Equality
import RecordQuery.Proofs.Filter.EchoedTrees
import RecordQuery.Proofs.Service.PlainRequests
import RecordQuery.Proofs.Config.Settings
import RecordQuery.Proofs.Config.Documents
import RecordQuery.Proofs.CommandLine.Precedence
import RecordQuery.Proofs.Toml.Quoting
import RecordQuery.Proofs.Toml.Lines
import RecordQuery.Proofs.Toml.Documents
import RecordQuery.Proofs.Config.RoundTrip
import RecordQuery.Proofs.Filter.OctetReader
import RecordQuery.Proofs.Filter.OctetReaders
import RecordQuery.Proofs.Filter.CursorSafety
import RecordQuery.Proofs.Filter.Accounts
import RecordQuery.Proofs.Filter.Templates
import RecordQuery.Proofs.Filter.QuotedTexts
import RecordQuery.Proofs.Filter.LiteralExchange
import RecordQuery.Proofs.Number.Comparison
import RecordQuery.Proofs.Text.UnitOrder
