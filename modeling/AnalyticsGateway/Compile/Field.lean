import AnalyticsGateway.Catalog.Dataset
import AnalyticsGateway.Compile.Error

/-!
# Names of fields

A request names a dimension, a metric, or a temporal dimension at a grain, as in
`created_at__month`.
-/

namespace AnalyticsGateway

/-- Whether a field belongs to rows, or to groups of them. -/
inductive Level where
  | rows | groups
deriving DecidableEq, Repr, Inhabited

/-- What a name stands for. -/
structure ResolvedField where
  term : Sql.Term
  type : FieldType
  level : Level
deriving DecidableEq, Repr, Inhabited

namespace Dataset

/-- Between a temporal dimension and the grain it is requested at. -/
def grainSeparator : String := "__"

def rowTerm (d : Dataset) : FieldSource → Sql.RowTerm
  | .column reference => .column (Sql.Column.ofReference reference d.aliasName)
  | .sql expression => .fragment expression

def dimensionField (d : Dataset) (dimension : Dimension) (grain : Option TimeGrain) :
    ResolvedField where
  term := match grain with
    | some grain => .truncated grain (d.rowTerm dimension.source)
    | none => .row (d.rowTerm dimension.source)
  type := dimension.type
  level := .rows

def metricField (d : Dataset) (metric : Metric) : ResolvedField where
  term := .aggregate metric.aggregation (metric.source.map d.rowTerm)
  type := metric.type
  level := .groups

/-- A temporal dimension at the grain that a name ends in. -/
def grainField? (d : Dataset) (name : String) : Option ResolvedField := do
  let (base, grain) ← Text.splitLast grainSeparator name
  let dimension ← d.dimensions.get? base
  guard dimension.type.isTemporal
  return d.dimensionField dimension (some (← TimeGrain.named? grain))

def field? (d : Dataset) (name : String) : Option ResolvedField :=
  match d.dimensions.get? name with
  | some dimension => some (d.dimensionField dimension dimension.grain)
  | none =>
    match d.metrics.get? name with
    | some metric => some (d.metricField metric)
    | none => d.grainField? name

def resolve (d : Dataset) (name : String) : Except CompileError ResolvedField :=
  match d.field? name with
  | some field => .ok field
  | none => .error (.unknownField d.id name)

end Dataset

end AnalyticsGateway
