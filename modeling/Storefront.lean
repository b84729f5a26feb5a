import Storefront.Api.App
import Storefront.Api.Cors
import Storefront.Api.Handler
import Storefront.Api.Message
import Storefront.Api.Payload
import Storefront.Api.Route
import Storefront.Api.Sending
import Storefront.Api.Shared
import Storefront.Api.Target
import Storefront.Attribute
import Storefront.Catalog
import Storefront.Filter.Expression
import Storefront.Filter.Literal
import Storefront.Filter.Product
import Storefront.Index.Basic
import Storefront.Index.Client
import Storefront.Index.Operation
import Storefront.Json.Encoding
import Storefront.Json.Reader
import Storefront.Json.Writer
import Storefront.Log.Call
import Storefront.Log.Journal
import Storefront.Log.Level
import Storefront.Log.Mask
import Storefront.Log.Template
import Storefront.Main
import Storefront.Number.Binary64
import Storefront.Number.Decimals
import Storefront.Number.Loose
import Storefront.Number.Numeral
import Storefront.Number.Shortest
import Storefront.Parameter
import Storefront.Product
import Storefront.Proofs.Number.Reading
import Storefront.Proofs.Number.Rounding
import Storefront.Registry
import Storefront.ResultOrder
import Storefront.Search.Service
import Storefront.SearchResult
import Storefront.Seeding.Options
import Storefront.Seeding.Run
import Storefront.Selection
import Storefront.Settings
import Storefront.SortMode
import Storefront.Sorting
import Storefront.Sorting.Merge
import Storefront.Sorting.Run
import Storefront.Text.Basic
import Storefront.Text.Blank
import Storefront.Text.Case
import Storefront.Text.Case.Table
import Storefront.Text.DecimalDigit
import Storefront.Text.Printable
import Storefront.Text.Quoted
import Storefront.Text.Ranges
import Storefront.Text.Utf8
import Storefront.Validation.Issue
import Storefront.Validation.Scalar
import Storefront.Value.Access
import Storefront.Value.Basic
import Storefront.Proofs.Filter.Grammar
import Storefront.Proofs.Filter.Reading
import Storefront.Proofs.Number.Order
import Storefront.Proofs.Filter.Selecting
import Storefront.Proofs.Selection.Accepting
import Storefront.Proofs.Selection.Rejecting
import Storefront.Filter.Builder
import Storefront.Proofs.Filter.History
import Storefront.Proofs.Number.Integral
import Storefront.Proofs.Filter.Decoding
import Storefront.Search.Session
import Storefront.Proofs.Index.Faults
import Storefront.Proofs.Search.Queries
import Storefront.Proofs.Sorting.Keeping
import Storefront.Proofs.Search.Pages
import Storefront.Proofs.Value.Reading
import Storefront.Proofs.Api.Sharing
import Storefront.Proofs.Api.Answers
import Storefront.Proofs.Api.Messages
import Storefront.Proofs.Api.Disclosure
import Storefront.Index.Content
import Storefront.Proofs.Catalog.Ingestion
import Storefront.Proofs.Catalog.Records
import Storefront.Proofs.Seeding.Sending
import Storefront.Proofs.Seeding.Converging
import Storefront.Proofs.Registry.LifeCycle
import Storefront.Proofs.Registry.Serving
import Storefront.Log.Session
import Storefront.Log.Loggers
import Storefront.Proofs.Json.Texts
import Storefront.Proofs.Log.Hiding
import Storefront.Proofs.Log.Lineage
import Storefront.Proofs.Settings.Bounds
import Storefront.Proofs.Settings.Origins
import Storefront.Proofs.Api.Endpoints
import Storefront.Proofs.Api.State
import Storefront.Proofs.Api.Targets
import Storefront.Proofs.Api.Identity
import Storefront.Proofs.Api.Readiness
import Storefront.Proofs.Value.Fields
import Storefront.Proofs.Log.Entries
import Storefront.Proofs.Api.Tracing
import Storefront.Proofs.Selection.Naming
import Storefront.Proofs.Log.Reconfiguring
import Storefront.Proofs.Log.Thresholds
import Storefront.Proofs.Json.Weights
import Storefront.Proofs.Search.Distance
import Storefront.Proofs.Sorting.Keys
import Storefront.Proofs.Sorting.Runs
import Storefront.Proofs.Sorting.Merging
import Storefront.Proofs.Sorting.Stable
import Storefront.Proofs.Search.Sorted
import Storefront.Proofs.Catalog.Batches
import Storefront.Proofs.Number.Nearest
import Storefront.Proofs.Filter.Numerals
import Storefront.Proofs.Log.Redaction
