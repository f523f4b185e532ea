import AnalyticsGateway.Json.Basic
import AnalyticsGateway.Sql.Query

/-!
# Queries in JSON

Each alternative is an object whose only key names it; a query with no tenant decided has no tenant
field.
-/

namespace AnalyticsGateway.Sql

/-- The object whose only key is the name of an alternative. -/
def tagged (tag : String) (content : Json) : Json := .object [(tag, content)]

def Column.toJson (c : Column) : Json :=
  .object [("qualifier", .ofOption .text c.qualifier), ("name", .text c.name)]

def Literal.toJson : Literal → Json
  | boolean b => tagged "boolean" (.boolean b)
  | integer n => tagged "integer" (.integer n)
  | float x => tagged "float" (.float x)
  | text s => tagged "string" (.text s)

def Comparison.name : Comparison → String
  | equal => "eq"
  | notEqual => "not_eq"
  | greater => "gt"
  | greaterEqual => "gt_eq"
  | less => "lt"
  | lessEqual => "lt_eq"

def RowTerm.toJson : RowTerm → Json
  | column c => tagged "column" c.toJson
  | fragment sql => tagged "raw" (.text sql)

def Term.toJson : Term → Json
  | row t => t.toJson
  | truncated grain t =>
    tagged "date_trunc" (.object [("grain", .text grain.name), ("expr", t.toJson)])
  | aggregate f argument =>
    tagged "aggregate"
      (.object [("func", .text f.name), ("arg", .ofOption RowTerm.toJson argument)])

def Test.toJson (term : Json) : Test → Json
  | compare c value =>
    tagged "compare" (.object
      [("left", term), ("op", .text c.name), ("right", tagged "literal" value.toJson)])
  | among values negated =>
    tagged "in_list" (.object
      [("expr", term), ("list", .ofList Literal.toJson values), ("negated", .boolean negated)])
  | between low high =>
    tagged "between" (.object [("expr", term), ("low", low.toJson), ("high", high.toJson)])
  | like pattern negated =>
    tagged "like" (.object
      [("expr", term), ("pattern", .text pattern), ("negated", .boolean negated)])
  | isNull negated => tagged "is_null" (.object [("expr", term), ("negated", .boolean negated)])

mutual

def Condition.toJson : Condition → Json
  | .test term check => check.toJson term.toJson
  | .guard column tenant =>
    tagged "tenant_guard" (.object [("column", column.toJson), ("tenant_id", .text tenant)])
  | .not c => tagged "not" c.toJson
  | .group connective parts => tagged connective.word (.array (Condition.toJsonAll parts))

def Condition.toJsonAll : List Condition → List Json
  | [] => []
  | c :: rest => c.toJson :: Condition.toJsonAll rest

end

def Relation.toJson : Relation → Json
  | table name => tagged "table" (.text name)
  | subquery sql => tagged "subquery" (.text sql)

def TableRef.toJson (t : TableRef) : Json :=
  .object [("relation", t.relation.toJson), ("alias", .text t.aliasName)]

def JoinKind.all : List JoinKind := [.inner, .left]

def JoinKind.name : JoinKind → String
  | inner => "inner"
  | left => "left"

def JoinKind.named? (text : String) : Option JoinKind := all.find? fun kind => kind.name == text

theorem JoinKind.named?_name (kind : JoinKind) : named? kind.name = some kind := by
  cases kind <;> rfl

def JoinCondition.toJson (c : JoinCondition) : Json :=
  .object [("left", c.left.toJson), ("right", c.right.toJson)]

def Join.toJson (j : Join) : Json :=
  .object
    [("kind", .text j.kind.name), ("table", j.table.toJson),
     ("on", .ofList JoinCondition.toJson j.conditions)]

def SelectItem.toJson (item : SelectItem) : Json :=
  .object [("expr", item.term.toJson), ("alias", .text item.aliasName)]

def OrderKey.toJson (key : OrderKey) : Json :=
  .object
    [("expr", (Term.row (.column ⟨none, key.aliasName⟩)).toJson),
     ("descending", .boolean key.descending)]

def Scope.toJson (scope : Scope) : Json :=
  .object <| ("state", .text scope.name) ::
    (scope.tenant?.toList.map fun tenant => ("tenant_id", .text tenant))

def Query.toJson (q : Query) : Json :=
  .object
    [("dataset_id", .text q.dataset), ("dialect", .text q.dialect.name),
     ("projection", .ofList SelectItem.toJson q.projection), ("from", q.base.toJson),
     ("joins", .ofList Join.toJson q.joins),
     ("selection", .ofOption Condition.toJson q.selection),
     ("group_by", .ofList Term.toJson q.grouping),
     ("having", .ofOption Condition.toJson q.having),
     ("order_by", .ofList OrderKey.toJson q.order), ("limit", .ofNat q.limit),
     ("offset", .ofOption .ofNat q.offset), ("rls", q.scope.toJson)]

end AnalyticsGateway.Sql
