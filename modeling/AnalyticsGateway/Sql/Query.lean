import AnalyticsGateway.Sql.Condition
import AnalyticsGateway.Sql.Dialect

/-!
# Queries

A grouped query over a base relation and its joins, and the tenant it is scoped to.
-/

namespace AnalyticsGateway.Sql

inductive Relation where
  | table (name : String)
  | subquery (sql : String)
deriving DecidableEq, Repr, Inhabited

structure TableRef where
  relation : Relation
  aliasName : String
deriving DecidableEq, Repr, Inhabited

/-- How a table is named in a report: a subquery by its alias. -/
def TableRef.reportName (table : TableRef) : String :=
  match table.relation with
  | .table name => name
  | .subquery _ => s!"(subquery) {table.aliasName}"

inductive JoinKind where
  | inner | left
deriving DecidableEq, Repr, Inhabited

/-- An equation between two columns. -/
structure JoinCondition where
  left : Column
  right : Column
deriving DecidableEq, Repr, Inhabited

structure Join where
  kind : JoinKind
  table : TableRef
  conditions : List JoinCondition
deriving DecidableEq, Repr, Inhabited

structure SelectItem where
  term : Term
  aliasName : String
deriving DecidableEq, Repr, Inhabited

/-- A selected column to order by. -/
structure OrderKey where
  aliasName : String
  descending : Bool
deriving DecidableEq, Repr, Inhabited

/-- What row-level security has decided about a query, and for which tenant. -/
inductive Scope where
  | undecided
  | enforced (tenant : String)
  | bypassed (tenant : String)
  | unscoped (tenant : String)
deriving DecidableEq, Repr, Inhabited

namespace Scope

def tenant? : Scope → Option String
  | undecided => none
  | enforced t | bypassed t | unscoped t => some t

def name : Scope → String
  | undecided => "unenforced"
  | enforced _ => "enforced"
  | bypassed _ => "bypassed"
  | unscoped _ => "unscoped"

end Scope

structure Query where
  dataset : String
  dialect : Dialect
  projection : List SelectItem
  base : TableRef
  joins : List Join
  /-- The condition on rows. -/
  selection : Option Condition
  grouping : List Term
  /-- The condition on groups. -/
  having : Option Condition
  order : List OrderKey
  limit : Nat
  offset : Option Nat
  scope : Scope
deriving Inhabited

namespace Query

/-- The tenant that the condition on rows is guarded for. -/
def guardedFor? (q : Query) : Option String := q.selection.bind Condition.guardedFor?

/-- The tables that are read, each once, the base first. -/
def tables (q : Query) : List String :=
  (q.base :: q.joins.map (·.table)).foldl (fun names table =>
    if names.contains table.reportName then names else names ++ [table.reportName]) []

end Query

end AnalyticsGateway.Sql
