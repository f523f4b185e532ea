import AnalyticsGateway.Catalog.Field
import AnalyticsGateway.Duration
import AnalyticsGateway.SortedMap
import AnalyticsGateway.Sql.Query

/-!
# Datasets

A dataset names a base relation, the joins it may use, and the fields that requests may ask for.
-/

namespace AnalyticsGateway

/-- An equation of a join, by references: the left one to the base or an earlier join, the right one
to a column of the joined table. -/
structure JoinKey where
  left : String
  right : String
deriving DecidableEq, Repr, Inhabited

structure JoinDefinition where
  aliasName : String
  table : String
  kind : Sql.JoinKind := .left
  keys : List JoinKey
deriving DecidableEq, Repr, Inhabited

structure Dataset where
  id : String
  source : String
  dialect : Dialect := .postgresql
  base : Sql.Relation
  aliasName : String := "base"
  dimensions : SortedMap Dimension := .empty
  metrics : SortedMap Metric := .empty
  joins : List JoinDefinition := []
  tenantColumn : Option String := none
  /-- Without a tenant column, queries are refused unless this is turned off. -/
  tenancyRequired : Bool := true
  cacheSeconds : Option Nat := none
  description : Option String := none
deriving Inhabited

namespace Dataset

/-- The first join of an alias. -/
def join? (d : Dataset) (aliasName : String) : Option JoinDefinition :=
  d.joins.find? fun join => join.aliasName == aliasName

/-- How long results are kept; zero for not at all. -/
def timeToLive (d : Dataset) (default : Duration) : Duration :=
  (d.cacheSeconds.map Duration.ofSeconds).getD default

end Dataset

/-- What a caller is told about a field. -/
structure FieldSummary where
  id : String
  type : FieldType
  description : Option String
deriving DecidableEq, Repr, Inhabited

/-- What a caller is told about a dataset: no expressions and no tables. -/
structure DatasetSummary where
  id : String
  source : String
  dialect : Dialect
  description : Option String
  dimensions : List FieldSummary
  metrics : List FieldSummary
deriving DecidableEq, Repr, Inhabited

def Dataset.summary (d : Dataset) : DatasetSummary where
  id := d.id
  source := d.source
  dialect := d.dialect
  description := d.description
  dimensions := d.dimensions.entries.map fun (id, f) => ⟨id, f.type, f.description⟩
  metrics := d.metrics.entries.map fun (id, f) => ⟨id, f.type, f.description⟩

end AnalyticsGateway
