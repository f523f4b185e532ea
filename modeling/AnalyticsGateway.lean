import AnalyticsGateway.ApiKeys
import AnalyticsGateway.Cache.Cluster
import AnalyticsGateway.Cache.Entry
import AnalyticsGateway.Cache.Flight
import AnalyticsGateway.Cache.Key
import AnalyticsGateway.Cache.Stats
import AnalyticsGateway.Cache.Step
import AnalyticsGateway.Calendar
import AnalyticsGateway.Catalog.Dataset
import AnalyticsGateway.Catalog.Encoding
import AnalyticsGateway.Catalog.Field
import AnalyticsGateway.Catalog.Registry
import AnalyticsGateway.Catalog.Validation
import AnalyticsGateway.Compile.Ceilings
import AnalyticsGateway.Compile.Error
import AnalyticsGateway.Compile.Field
import AnalyticsGateway.Compile.Filter
import AnalyticsGateway.Compile.Joins
import AnalyticsGateway.Compile.Query
import AnalyticsGateway.Config.Basic
import AnalyticsGateway.Config.Reader
import AnalyticsGateway.Config.Tree
import AnalyticsGateway.Decimal.Layout
import AnalyticsGateway.Decimal.Reader
import AnalyticsGateway.Decimal.Shortest
import AnalyticsGateway.Decimal.Value
import AnalyticsGateway.Digest.Sha256
import AnalyticsGateway.Duration
import AnalyticsGateway.Error
import AnalyticsGateway.Gateway.Plan
import AnalyticsGateway.Gateway.State
import AnalyticsGateway.Gateway.Step
import AnalyticsGateway.Gateway.Visit
import AnalyticsGateway.Http.MediaType
import AnalyticsGateway.Http.Message
import AnalyticsGateway.Http.Router
import AnalyticsGateway.Json.Basic
import AnalyticsGateway.Json.Form
import AnalyticsGateway.Json.Reader
import AnalyticsGateway.Json.Record
import AnalyticsGateway.Json.Token
import AnalyticsGateway.Json.Writer
import AnalyticsGateway.Moment
import AnalyticsGateway.Proofs.Cache.Boarding
import AnalyticsGateway.Proofs.Cache.Counters
import AnalyticsGateway.Proofs.Cache.Entry
import AnalyticsGateway.Proofs.Cache.Failures
import AnalyticsGateway.Proofs.Cache.Founded
import AnalyticsGateway.Proofs.Cache.Freshness
import AnalyticsGateway.Proofs.Cache.Journal
import AnalyticsGateway.Proofs.Cache.Key
import AnalyticsGateway.Proofs.Cache.Lease
import AnalyticsGateway.Proofs.Cache.Moves
import AnalyticsGateway.Proofs.Cache.Provenance
import AnalyticsGateway.Proofs.Cache.Records
import AnalyticsGateway.Proofs.Cache.Runner
import AnalyticsGateway.Proofs.Cache.SingleFlight
import AnalyticsGateway.Proofs.Cache.Tally
import AnalyticsGateway.Proofs.Calendar
import AnalyticsGateway.Proofs.Catalog.Loading
import AnalyticsGateway.Proofs.Clauses
import AnalyticsGateway.Proofs.Clock
import AnalyticsGateway.Proofs.Compile.Comparisons
import AnalyticsGateway.Proofs.Compile.Filter
import AnalyticsGateway.Proofs.Compile.Grouped
import AnalyticsGateway.Proofs.Compile.Integers
import AnalyticsGateway.Proofs.Compile.Joins
import AnalyticsGateway.Proofs.Compile.Levels
import AnalyticsGateway.Proofs.Compile.Meaning
import AnalyticsGateway.Proofs.Compile.Names
import AnalyticsGateway.Proofs.Compile.NormalForm
import AnalyticsGateway.Proofs.Compile.Regrouping
import AnalyticsGateway.Proofs.Decimal.Fields
import AnalyticsGateway.Proofs.Decimal.Layout
import AnalyticsGateway.Proofs.Decimal.Nearest
import AnalyticsGateway.Proofs.Decimal.Shortest
import AnalyticsGateway.Proofs.Documents
import AnalyticsGateway.Proofs.Except
import AnalyticsGateway.Proofs.Gateway.History
import AnalyticsGateway.Proofs.Gateway.Isolation
import AnalyticsGateway.Proofs.Gateway.Loading
import AnalyticsGateway.Proofs.Gateway.Moves
import AnalyticsGateway.Proofs.Gateway.Reach
import AnalyticsGateway.Proofs.Gateway.Rejections
import AnalyticsGateway.Proofs.Gateway.Sources
import AnalyticsGateway.Proofs.Gateway.Timely
import AnalyticsGateway.Proofs.Gateway.Timeouts
import AnalyticsGateway.Proofs.Gateway.Traced
import AnalyticsGateway.Proofs.Gateway.Visits
import AnalyticsGateway.Proofs.Json.ReadBack
import AnalyticsGateway.Proofs.Json.Tokens
import AnalyticsGateway.Proofs.Json.Values
import AnalyticsGateway.Proofs.Json.Written
import AnalyticsGateway.Proofs.Place
import AnalyticsGateway.Proofs.RateLimit.Budget
import AnalyticsGateway.Proofs.RateLimit.Call
import AnalyticsGateway.Proofs.RateLimit.Expiry
import AnalyticsGateway.Proofs.RateLimit.Serial
import AnalyticsGateway.Proofs.RateLimit.Wait
import AnalyticsGateway.Proofs.Result.Tables
import AnalyticsGateway.Proofs.Scoping
import AnalyticsGateway.Proofs.Source.Dispatch
import AnalyticsGateway.Proofs.Source.Retry
import AnalyticsGateway.Proofs.Sql.Apart
import AnalyticsGateway.Proofs.Sql.Encoding
import AnalyticsGateway.Proofs.Sql.Groups
import AnalyticsGateway.Proofs.Sql.Junction
import AnalyticsGateway.Proofs.Sql.Normal
import AnalyticsGateway.Proofs.Sql.Precedence
import AnalyticsGateway.Proofs.Sql.Reading
import AnalyticsGateway.Proofs.Sql.Scanning
import AnalyticsGateway.Proofs.Sql.SortKey
import AnalyticsGateway.Proofs.Sql.Structure
import AnalyticsGateway.Proofs.Sql.Truism
import AnalyticsGateway.Proofs.Sql.Truth
import AnalyticsGateway.Proofs.Sql.Weight
import AnalyticsGateway.Proofs.Sql.Written
import AnalyticsGateway.Proofs.Store.Agreement
import AnalyticsGateway.Proofs.Store.Contract
import AnalyticsGateway.Proofs.Store.Exclusion
import AnalyticsGateway.Proofs.Store.Lasting
import AnalyticsGateway.Proofs.Store.Unseen
import AnalyticsGateway.Proofs.Store.Uses
import AnalyticsGateway.Proofs.Tenancy
import AnalyticsGateway.Proofs.Text.Figure
import AnalyticsGateway.RateLimit.Bucket
import AnalyticsGateway.RateLimit.Limiter
import AnalyticsGateway.RateLimit.Tokens
import AnalyticsGateway.Request.Basic
import AnalyticsGateway.Request.Encoding
import AnalyticsGateway.Result.Rows
import AnalyticsGateway.Result.Schema
import AnalyticsGateway.Simulation.Basic
import AnalyticsGateway.Simulation.Errand
import AnalyticsGateway.SortedMap
import AnalyticsGateway.Source.Coercion
import AnalyticsGateway.Source.Connector
import AnalyticsGateway.Source.Dispatch
import AnalyticsGateway.Source.Druid
import AnalyticsGateway.Source.Engine
import AnalyticsGateway.Source.Error
import AnalyticsGateway.Source.MySql.Address
import AnalyticsGateway.Source.MySql.Session
import AnalyticsGateway.Source.Postgresql.Address
import AnalyticsGateway.Source.Postgresql.Session
import AnalyticsGateway.Sql.Check
import AnalyticsGateway.Sql.Condition
import AnalyticsGateway.Sql.Dialect
import AnalyticsGateway.Sql.Encoding
import AnalyticsGateway.Sql.Function
import AnalyticsGateway.Sql.Grammar.Alteration
import AnalyticsGateway.Sql.Grammar.Basic
import AnalyticsGateway.Sql.Grammar.Call
import AnalyticsGateway.Sql.Grammar.Change
import AnalyticsGateway.Sql.Grammar.Command
import AnalyticsGateway.Sql.Grammar.Definition
import AnalyticsGateway.Sql.Grammar.Expression
import AnalyticsGateway.Sql.Grammar.Name
import AnalyticsGateway.Sql.Grammar.Operator
import AnalyticsGateway.Sql.Grammar.Privilege
import AnalyticsGateway.Sql.Grammar.Query
import AnalyticsGateway.Sql.Grammar.Rules
import AnalyticsGateway.Sql.Grammar.Select
import AnalyticsGateway.Sql.Grammar.Session
import AnalyticsGateway.Sql.Grammar.Special
import AnalyticsGateway.Sql.Grammar.Statement
import AnalyticsGateway.Sql.Grammar.Table
import AnalyticsGateway.Sql.Grammar.Type
import AnalyticsGateway.Sql.Lexis
import AnalyticsGateway.Sql.Piece
import AnalyticsGateway.Sql.Query
import AnalyticsGateway.Sql.Render
import AnalyticsGateway.Sql.SortKey
import AnalyticsGateway.Sql.Term
import AnalyticsGateway.Sql.Token
import AnalyticsGateway.Sql.Writer
import AnalyticsGateway.Store.Basic
import AnalyticsGateway.Store.Memory
import AnalyticsGateway.Store.Table
import AnalyticsGateway.Tenancy
import AnalyticsGateway.Text.Alphabetic
import AnalyticsGateway.Text.Blank
import AnalyticsGateway.Text.Casing
import AnalyticsGateway.Text.Composition
import AnalyticsGateway.Text.Direction
import AnalyticsGateway.Text.Joining
import AnalyticsGateway.Text.NormalForm
import AnalyticsGateway.Text.Percent
import AnalyticsGateway.Text.Printable
import AnalyticsGateway.Text.Quoted
import AnalyticsGateway.Text.Split
import AnalyticsGateway.Text.Table
import AnalyticsGateway.Url.Basic
import AnalyticsGateway.Url.Domain
import AnalyticsGateway.Url.DomainImage
import AnalyticsGateway.Url.Host
import AnalyticsGateway.Url.Punycode
import AnalyticsGateway.Url.Reader
import AnalyticsGateway.Word
