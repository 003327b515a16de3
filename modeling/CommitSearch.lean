import CommitSearch.Cache.Key
import CommitSearch.Cache.Memory
import CommitSearch.Cache.Server
import CommitSearch.Calendar.Cursor
import CommitSearch.Calendar.Day
import CommitSearch.Calendar.Instant
import CommitSearch.Calendar.Reader
import CommitSearch.Commit
import CommitSearch.Commit.Json
import CommitSearch.Digest.Sha256
import CommitSearch.Error
import CommitSearch.Filter
import CommitSearch.Flight
import CommitSearch.Flight.Group
import CommitSearch.Flight.Script
import CommitSearch.Http.MediaType
import CommitSearch.Http.Message
import CommitSearch.Http.Plan
import CommitSearch.Http.SearchParameters
import CommitSearch.Http.Site
import CommitSearch.Http.Wire
import CommitSearch.Json.Fault
import CommitSearch.Json.Literal
import CommitSearch.Json.Numeral
import CommitSearch.Json.Reader
import CommitSearch.Json.Skip
import CommitSearch.Json.Token
import CommitSearch.Json.Writer
import CommitSearch.Main
import CommitSearch.Number.Binary
import CommitSearch.Number.Shortest
import CommitSearch.Proofs.Cache.Contract
import CommitSearch.Proofs.Cache.Encoding
import CommitSearch.Proofs.Cache.Entries
import CommitSearch.Proofs.Cache.Sweep
import CommitSearch.Proofs.Calendar.Cursor
import CommitSearch.Proofs.Calendar.DateText
import CommitSearch.Proofs.Calendar.Day
import CommitSearch.Proofs.Commit.RoundTrip
import CommitSearch.Proofs.Filter.Canonical
import CommitSearch.Proofs.Filter.Insertion
import CommitSearch.Proofs.Flight.Agreement
import CommitSearch.Proofs.Flight.Clients
import CommitSearch.Proofs.Flight.Coordination
import CommitSearch.Proofs.Flight.Run
import CommitSearch.Proofs.Flight.Table
import CommitSearch.Proofs.Http.Rejections
import CommitSearch.Proofs.Http.SearchParameters
import CommitSearch.Proofs.Http.Traffic
import CommitSearch.Proofs.Json.Reading
import CommitSearch.Proofs.Json.Spelling
import CommitSearch.Proofs.Number.Rounding
import CommitSearch.Proofs.Query.Lexemes
import CommitSearch.Proofs.Query.Statement
import CommitSearch.Proofs.Schedule.Firings
import CommitSearch.Proofs.Schedule.Gaps
import CommitSearch.Proofs.Schedule.LocalTime
import CommitSearch.Proofs.Schedule.YearlyRules
import CommitSearch.Proofs.Service.Backends
import CommitSearch.Proofs.Service.Choices
import CommitSearch.Proofs.Service.Coverage
import CommitSearch.Proofs.Service.Direct
import CommitSearch.Proofs.Service.Drops
import CommitSearch.Proofs.Service.Effects
import CommitSearch.Proofs.Service.Flights
import CommitSearch.Proofs.Service.Freshness
import CommitSearch.Proofs.Service.History
import CommitSearch.Proofs.Service.Hits
import CommitSearch.Proofs.Service.Holdings
import CommitSearch.Proofs.Service.Progress
import CommitSearch.Proofs.Service.Provenance
import CommitSearch.Proofs.Service.Reads
import CommitSearch.Proofs.Service.Redaction
import CommitSearch.Proofs.Service.Run
import CommitSearch.Proofs.Service.Searches
import CommitSearch.Proofs.Service.Serving
import CommitSearch.Proofs.Service.SingleRead
import CommitSearch.Proofs.Service.Stored
import CommitSearch.Proofs.Service.Sweeps
import CommitSearch.Proofs.Service.Tasks
import CommitSearch.Proofs.Service.Transparency
import CommitSearch.Proofs.Store.Arrival
import CommitSearch.Proofs.Store.Cursors
import CommitSearch.Proofs.Store.Ingestion
import CommitSearch.Proofs.Store.Order
import CommitSearch.Proofs.Store.Recall
import CommitSearch.Proofs.Store.Recognition
import CommitSearch.Proofs.Store.Rows
import CommitSearch.Proofs.Store.Saving
import CommitSearch.Proofs.Store.Search
import CommitSearch.Proofs.Store.Vocabulary
import CommitSearch.Proofs.Store.Walk
import CommitSearch.Proofs.Text.Ascending
import CommitSearch.Proofs.Text.Equivalence
import CommitSearch.Proofs.Text.Letters
import CommitSearch.Proofs.Text.NormalForm
import CommitSearch.Proofs.Text.Stretches
import CommitSearch.Proofs.Text.Words
import CommitSearch.Proofs.Trigram.Composition
import CommitSearch.Proofs.Trigram.Similarity
import CommitSearch.Proofs.Trigram.Typos
import CommitSearch.Query
import CommitSearch.Query.Statement
import CommitSearch.Request
import CommitSearch.Schedule
import CommitSearch.Schedule.Rounds
import CommitSearch.Schedule.YearlyRule
import CommitSearch.Schedule.Zone
import CommitSearch.Schedule.ZoneTable
import CommitSearch.Service
import CommitSearch.Service.Script
import CommitSearch.Settings
import CommitSearch.Settings.CommandLine
import CommitSearch.Startup
import CommitSearch.Store
import CommitSearch.Text.Alphanumeric
import CommitSearch.Text.CanonicalForms
import CommitSearch.Text.CaseContext
import CommitSearch.Text.CaseRuns
import CommitSearch.Text.CodeRanges
import CommitSearch.Text.CombiningClass
import CommitSearch.Text.Fold
import CommitSearch.Text.Lists
import CommitSearch.Text.Mark
import CommitSearch.Text.Numeral
import CommitSearch.Text.Quoted
import CommitSearch.Text.Utf8
import CommitSearch.Trigram
import CommitSearch.Url
import CommitSearch.Url.Address
import CommitSearch.Url.Host
import CommitSearch.Url.Punycode
