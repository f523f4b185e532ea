import AnalyticsGateway.Cache.Stats
import AnalyticsGateway.Catalog.Registry
import AnalyticsGateway.Gateway.Plan
import AnalyticsGateway.Moment
import AnalyticsGateway.Result.Rows
import AnalyticsGateway.Result.Schema
import AnalyticsGateway.Source.Engine

/-!
# Visits

What a caller asks of a gateway, and what it is told. A visit is one such exchange; each of its
stages names the step that comes next.
-/

namespace AnalyticsGateway

inductive Action where
  | query (request : Request)
  /-- Shows what a query would run. -/
  | explain (request : Request)
  | listDatasets
  /-- Asks a source for its tables. -/
  | describe (source : String)
  | reloadCatalog
  | cacheStats
deriving Inhabited

/-- The tables of a source. -/
structure SourceSchema where
  source : String
  engine : Engine
  tables : List TableSchema
deriving DecidableEq, Repr, Inhabited

/-- What is told of a catalog after a load. -/
structure CatalogVersion where
  version : Nat
  datasets : Nat
deriving DecidableEq, Repr, Inhabited

def Catalog.version (c : Catalog) : CatalogVersion := ⟨c.current.version, c.current.datasets.size⟩

inductive Answer where
  | result (result : QueryResult)
  | explanation (explanation : Explanation)
  | datasets (summaries : List DatasetSummary)
  | schema (schema : SourceSchema)
  | version (version : CatalogVersion)
  | stats (stats : CacheStats)
deriving Inhabited

/-! ## in JSON -/

def SourceSchema.toJson (s : SourceSchema) : Json :=
  .object
    [("source_id", .text s.source), ("engine", .text s.engine.name),
     ("tables", .ofList TableSchema.toJson s.tables)]

def CatalogVersion.toJson (v : CatalogVersion) : Json :=
  .object [("version", .ofNat v.version), ("datasets", .ofNat v.datasets)]

/-! ## stages -/

inductive VisitStage where
  /-- Pays with a token of the caller's bucket. -/
  | entering
  /-- Reads the catalog. -/
  | preparing
  /-- Has a call in the cache. -/
  | fetching (call : Nat)
  /-- Has asked a source for its tables. -/
  | describing (source : String) (engine : Engine) (deadline : Instant)
  | done (answer : Except GatewayError Answer)
  | cancelled
deriving Inhabited

namespace VisitStage

def isPending : VisitStage → Bool
  | done _ | cancelled => false
  | _ => true

def answer? : VisitStage → Option (Except GatewayError Answer)
  | done answer => some answer
  | _ => none

end VisitStage

structure Visit where
  /-- The process that the caller has reached. -/
  process : Nat
  caller : Caller
  action : Action
  started : Instant
  stage : VisitStage := .entering
deriving Inhabited

end AnalyticsGateway
