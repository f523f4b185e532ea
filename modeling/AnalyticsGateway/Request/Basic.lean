import AnalyticsGateway.Json.Basic

/-!
# Requests

What a client asks of a dataset, in terms of its fields.
-/

namespace AnalyticsGateway

structure Predicate where
  field : String
  operator : String
  value : Json := .null
deriving Inhabited

inductive Filter where
  | and (parts : List Filter)
  | or (parts : List Filter)
  | not (filter : Filter)
  | predicate (predicate : Predicate)
deriving Inhabited

mutual

/-- The greatest number of filters one inside the other. -/
def Filter.depth : Filter → Nat
  | .and parts | .or parts => 1 + Filter.depthAll parts
  | .not filter => 1 + filter.depth
  | .predicate _ => 1

def Filter.depthAll : List Filter → Nat
  | [] => 0
  | filter :: rest => max filter.depth (Filter.depthAll rest)

end

inductive SortDirection where
  | ascending | descending
deriving DecidableEq, Repr, Inhabited

structure SortField where
  field : String
  direction : SortDirection := .ascending
deriving DecidableEq, Repr, Inhabited

structure Request where
  dataset : String
  dimensions : List String := []
  metrics : List String := []
  filters : List Filter := []
  sort : List SortField := []
  limit : Option Nat := none
  offset : Option Nat := none
deriving Inhabited

end AnalyticsGateway
