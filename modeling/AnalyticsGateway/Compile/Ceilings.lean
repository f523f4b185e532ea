import AnalyticsGateway.Compile.Error
import AnalyticsGateway.Request.Basic

/-!
# How large a request may be
-/

namespace AnalyticsGateway

structure Ceilings where
  dimensions : Nat := 10
  metrics : Nat := 20
  filterDepth : Nat := 4
  limit : Nat := 100000
  /-- The limit of a request that gives none. -/
  defaultLimit : Nat := 1000
  listLength : Nat := 1000
deriving DecidableEq, Repr, Inhabited

namespace Ceilings

/-- The ceilings that can be told without a dataset. -/
def check (c : Ceilings) (request : Request) : Except CompileError Unit := do
  let dimensions := request.dimensions.length
  if c.dimensions < dimensions then
    throw (.tooComplex s!"{dimensions} dimensions requested, maximum is {c.dimensions}")
  let metrics := request.metrics.length
  if c.metrics < metrics then
    throw (.tooComplex s!"{metrics} metrics requested, maximum is {c.metrics}")
  let depth := Filter.depthAll request.filters
  if c.filterDepth < depth then
    throw (.tooComplex s!"filter nesting depth {depth} exceeds the maximum of {c.filterDepth}")

def rowLimit (c : Ceilings) (request : Request) : Except CompileError Nat :=
  let limit := request.limit.getD c.defaultLimit
  if c.limit < limit then
    .error (.tooComplex s!"limit {limit} exceeds the maximum of {c.limit}")
  else .ok limit

end Ceilings

end AnalyticsGateway
