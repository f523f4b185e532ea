import AnalyticsGateway.Compile.Field
import AnalyticsGateway.Sql.Check
import AnalyticsGateway.Text.Blank

/-!
# Valid datasets

A dataset is checked when a catalog is loaded, so that a broken fragment or an alias that nothing
bears is found before any query.
-/

namespace AnalyticsGateway

/-! ## why a catalog is refused -/

inductive CatalogError where
  | unreadable (detail : String)
  | malformed (detail : String)
  | duplicateDataset (id : String)
  | invalidDataset (id reason : String)
deriving DecidableEq, Repr

def CatalogError.message : CatalogError → String
  | unreadable detail => s!"Failed to read catalog: {detail}"
  | malformed detail => s!"Failed to parse catalog: {detail}"
  | duplicateDataset id => s!"Dataset '{id}' is defined more than once"
  | invalidDataset id reason => s!"Invalid dataset '{id}': {reason}"

/-! ## checks -/

/-- The registered sources and their dialects. -/
abbrev Sources := SortedMap Dialect

namespace Dataset

/-- The first check that fails, by its reason. -/
abbrev Check := Except String Unit

def checkSource (d : Dataset) (sources : Sources) : Check :=
  match sources.get? d.source with
  | none => throw s!"source '{d.source}' is not registered"
  | some dialect =>
    if dialect ≠ d.dialect then
      throw s!"dialect {d.dialect.name} does not match source '{d.source}' ({dialect.name})"
    else return

def checkBase (d : Dataset) : Check :=
  match d.base with
  | .table name => if Text.trim name = "" then throw "base table must not be empty" else return
  | .subquery sql =>
    (Sql.checkSubquery d.dialect sql).mapError fun reason => s!"base SQL: {reason}"

/-- The alias before the first point of a reference. -/
def qualifierOf (reference : String) : Option String :=
  (Text.splitFirst '.' reference).map (·.1)

def checkJoinKeys (join : JoinDefinition) (aliases : List String) : Check :=
  join.keys.forM fun key =>
    match qualifierOf key.left with
    | some qualifier =>
      if aliases.contains qualifier then return
      else throw s!"join '{join.aliasName}' references unknown alias '{qualifier}'"
    | none => return

/-- Each join may refer to the aliases before it; in the end, all of them are known. -/
def checkJoins (aliases : List String) : List JoinDefinition → Except String (List String)
  | [] => return aliases
  | join :: rest => do
    if join.keys.isEmpty then throw s!"join '{join.aliasName}' has no join keys"
    checkJoinKeys join aliases
    if aliases.contains join.aliasName then throw s!"alias '{join.aliasName}' is used twice"
    checkJoins (aliases ++ [join.aliasName]) rest

def checkFieldSource (d : Dataset) (aliases : List String) (field : String) : FieldSource → Check
  | .column reference =>
    match qualifierOf reference with
    | some qualifier =>
      if aliases.contains qualifier then return
      else throw s!"field '{field}' references unknown alias '{qualifier}'"
    | none => return
  | .sql expression =>
    (Sql.checkExpression d.dialect expression).mapError fun reason => s!"field '{field}': {reason}"

def checkFieldId (id : String) : Check :=
  if (Text.splitLast grainSeparator id).isSome then
    throw s!"field id '{id}' must not contain '{grainSeparator}'"
  else return

def checkDimension (d : Dataset) (aliases : List String) (id : String) (dimension : Dimension) :
    Check := do
  checkFieldId id
  if d.metrics.contains id then throw s!"'{id}' is both a dimension and a metric"
  d.checkFieldSource aliases id dimension.source

def checkMetric (d : Dataset) (aliases : List String) (id : String) (metric : Metric) : Check := do
  checkFieldId id
  match metric.source with
  | some source => d.checkFieldSource aliases id source
  | none =>
    if metric.aggregation ≠ .count then
      throw s!"metric '{id}' needs an expression for {metric.aggregation.name}"

/-- All checks of a dataset, in the order in which they are reported. -/
def check (d : Dataset) (sources : Sources) : Check := do
  if Text.trim d.id = "" then throw "id must not be empty"
  d.checkSource sources
  d.checkBase
  let aliases ← checkJoins [d.aliasName] d.joins
  d.dimensions.entries.forM fun (id, dimension) => d.checkDimension aliases id dimension
  d.metrics.entries.forM fun (id, metric) => d.checkMetric aliases id metric

def validate (d : Dataset) (sources : Sources) : Except CatalogError Unit :=
  (d.check sources).mapError fun reason => .invalidDataset d.id reason

end Dataset

end AnalyticsGateway
