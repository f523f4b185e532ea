import AnalyticsGateway.Decimal.Layout
import AnalyticsGateway.Sql.Function
import AnalyticsGateway.Sql.Query

/-!
# Queries as SQL

The pieces of a query in its own dialect. Parentheses stand around the groups within a group, under
`NOT`, and around fragments.
-/

namespace AnalyticsGateway.Sql

/-- How terms are written in a query. -/
structure Style where
  dialect : Dialect
  /-- The alias that need not be written before its columns: that of the base, if nothing is
  joined to it. -/
  implicitAlias : Option String

namespace Style

def column (s : Style) (c : Column) : List Piece :=
  match c.qualifier with
  | some aliasName =>
    if s.implicitAlias = some aliasName then [.name c.name]
    else [.name aliasName, .fixed ".", .name c.name]
  | none => [.name c.name]

def literal : Literal → Piece
  | .boolean true => .fixed "TRUE"
  | .boolean false => .fixed "FALSE"
  | .integer n => .number (String.ofList (NumberLayout.integer n))
  | .float x => .number (NumberLayout.plain.write x)
  | .text value => .text value

def rowTerm (s : Style) : RowTerm → List Piece
  | .column c => s.column c
  | .fragment sql => [.fixed "(", .fragment sql, .fixed ")"]

def term (s : Style) : Term → Except RenderError (List Piece)
  | .row t => .ok (s.rowTerm t)
  | .truncated grain t => truncation s.dialect grain (s.rowTerm t)
  | .aggregate function argument => aggregation s.dialect function (argument.map s.rowTerm)

/-! ## conditions -/

def comparison : Comparison → String
  | .equal => "="
  | .notEqual => "<>"
  | .greater => ">"
  | .greaterEqual => ">="
  | .less => "<"
  | .lessEqual => "<="

def negation (negated : Bool) : String := if negated then "NOT " else ""

/-- What follows the term that is tested. -/
def test : Test → List Piece
  | .compare c value => [.fixed s!" {comparison c} ", literal value]
  | .among values negated =>
    .fixed s!" {negation negated}IN (" ::
      separated ", " (values.map fun value => [literal value]) ++ [.fixed ")"]
  | .between low high => [.fixed " BETWEEN ", literal low, .fixed " AND ", literal high]
  | .like pattern negated => [.fixed s!" {negation negated}LIKE ", .text pattern]
  | .isNull negated => [.fixed s!" IS {negation negated}NULL"]

def connective : Connective → String
  | .and => " AND "
  | .or => " OR "

def parenthesized (pieces : List Piece) : List Piece := .fixed "(" :: pieces ++ [.fixed ")"]

mutual

def condition (s : Style) : Condition → Except RenderError (List Piece)
  | .test t check => return (← s.term t) ++ test check
  | .guard column tenant => .ok (s.column column ++ [.fixed " = ", .text tenant])
  | .not c => return .fixed "NOT " :: parenthesized (← s.condition c)
  | .group _ [] => .ok [.fixed "1 = 1"]
  | .group c parts => return separated (connective c) (← s.parts parts)

/-- The parts of a group, those that are groups themselves in parentheses. -/
def parts (s : Style) : List Condition → Except RenderError (List (List Piece))
  | [] => .ok []
  | .group c inner :: rest => do
    let group ← s.condition (.group c inner)
    return parenthesized group :: (← s.parts rest)
  | part :: rest => do
    let written ← s.condition part
    return written :: (← s.parts rest)

end

/-! ## clauses -/

def table (t : TableRef) : List Piece :=
  let relation := match t.relation with
    | .table name => objectName name
    | .subquery sql => [.fixed "(", .fragment sql, .fixed ")"]
  relation ++ [.fixed " AS ", .name t.aliasName]

def join (s : Style) (j : Join) : List Piece :=
  let keyword := match j.kind with
    | .inner => "INNER JOIN "
    | .left => "LEFT JOIN "
  let conditions := j.conditions.map fun c => s.column c.left ++ .fixed " = " :: s.column c.right
  .fixed keyword :: table j.table ++ .fixed " ON " :: separated " AND " conditions

/-- An alias is left out where it is the name of the column. -/
def selectItem (s : Style) (item : SelectItem) : Except RenderError (List Piece) := do
  let written ← s.term item.term
  match item.term with
  | .row (.column c) =>
    return if c.name = item.aliasName then written
      else written ++ [.fixed " AS ", .name item.aliasName]
  | _ => return written ++ [.fixed " AS ", .name item.aliasName]

def orderKey (key : OrderKey) : List Piece :=
  [.name key.aliasName, .fixed (if key.descending then " DESC" else " ASC")]

/-- A clause of items, left out if there are none. -/
def listClause (keyword : String) (items : List (List Piece)) : List (List Piece) :=
  if items.isEmpty then [] else [.fixed keyword :: separated ", " items]

def conditionClause (s : Style) (keyword : String) :
    Option Condition → Except RenderError (List (List Piece))
  | none => .ok []
  | some c => return [.fixed keyword :: (← s.condition c)]

end Style

namespace Query

def style (q : Query) : Style where
  dialect := q.dialect
  implicitAlias := if q.joins.isEmpty then some q.base.aliasName else none

/-- The pieces of a query, clause by clause. -/
def pieces (q : Query) : Except RenderError (List Piece) := do
  let s := q.style
  let items ← q.projection.mapM s.selectItem
  let selection ← s.conditionClause "WHERE " q.selection
  let grouping ← q.grouping.mapM s.term
  let having ← s.conditionClause "HAVING " q.having
  return separated " " <|
    [.fixed "SELECT " :: separated ", " items, .fixed "FROM " :: Style.table q.base] ++
      q.joins.map s.join ++ selection ++ Style.listClause "GROUP BY " grouping ++ having ++
        Style.listClause "ORDER BY " (q.order.map Style.orderKey) ++
          [rowLimit q.dialect q.limit q.offset]

end Query

end AnalyticsGateway.Sql
