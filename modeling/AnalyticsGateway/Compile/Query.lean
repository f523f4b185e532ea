import AnalyticsGateway.Compile.Filter
import AnalyticsGateway.Compile.Joins

/-!
# Requests to queries

A request is compiled against its dataset into a query that is not yet scoped to a tenant. The same
request always gives the same query.
-/

namespace AnalyticsGateway

namespace Dataset

/-- Selects fields of one level, after those that are selected already. -/
def select (d : Dataset) (level : Level) (selected : List Sql.SelectItem) :
    List String → Except CompileError (List Sql.SelectItem)
  | [] => .ok selected
  | name :: rest => do
    let field ← d.resolve name
    if field.level ≠ level then throw (.unknownField d.id name)
    if selected.any (·.aliasName == name) then throw (.duplicateField name)
    d.select level (selected ++ [⟨field.term, name⟩]) rest

/-- An unknown field is reported as such before one that is only not selected. -/
def orderKey (d : Dataset) (selected : List Sql.SelectItem) (sort : SortField) :
    Except CompileError Sql.OrderKey := do
  if !selected.any (·.aliasName == sort.field) then
    let _ ← d.resolve sort.field
    throw (.sortFieldNotSelected sort.field)
  return ⟨sort.field, sort.direction = .descending⟩

def compile (d : Dataset) (ceilings : Ceilings) (request : Request) :
    Except CompileError Sql.Query := do
  if request.dataset ≠ d.id then throw (.unknownDataset request.dataset)
  if request.dimensions.isEmpty && request.metrics.isEmpty then throw .emptyRequest
  ceilings.check request
  let dimensions ← d.select .rows [] request.dimensions
  let projection ← d.select .groups dimensions request.metrics
  let (selection, having) ← d.conditions ceilings request.filters
  let order ← request.sort.mapM (d.orderKey projection)
  let limit ← ceilings.rowLimit request
  let conditions := selection.toList ++ having.toList
  return {
    dataset := d.id
    dialect := d.dialect
    projection
    base := ⟨d.base, d.aliasName⟩
    joins := d.neededJoins (projection.map (·.term) ++ conditions.flatMap Sql.Condition.terms)
    selection
    grouping := dimensions.map (·.term)
    having
    order
    limit
    offset := request.offset.filter (0 < ·)
    scope := .undecided }

end Dataset

end AnalyticsGateway
