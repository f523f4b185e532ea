import AnalyticsGateway.Catalog.Dataset
import AnalyticsGateway.Json.Form
import AnalyticsGateway.Sql.Encoding

/-!
# Datasets in JSON
-/

namespace AnalyticsGateway

/-- The content of an object whose only key is one of some tags, by the tag. -/
def Json.tagged? {α : Type} (content? : String → Json → Option α) : Json → Option α
  | .object [(tag, content)] => content? tag content
  | _ => none

/-! ## fields -/

namespace FieldSource

def toJson : FieldSource → Json
  | column reference => Sql.tagged "column" (.text reference)
  | sql expression => Sql.tagged "sql" (.text expression)

def form : Json.Form := .tagged [("column", .text), ("sql", .text)]

def ofJson? : Json → Option FieldSource :=
  Json.tagged? fun tag content =>
    match tag with
    | "column" => content.text?.map column
    | "sql" => content.text?.map sql
    | _ => none

end FieldSource

namespace Dimension

def fields : List Json.Field :=
  [.needed "expr" FieldSource.form, .needed "type" (.name (FieldType.all.map (·.name))),
   .defaulted "time_grain" (.nullable (.name (TimeGrain.all.map (·.name)))),
   .defaulted "description" (.nullable .text)]

def toJson (d : Dimension) : Json :=
  .object
    [("expr", d.source.toJson), ("type", .text d.type.name),
     ("time_grain", .ofOption (fun grain => .text grain.name) d.grain),
     ("description", .ofOption .text d.description)]

def ofJson? (json : Json) : Option Dimension := do
  let r ← json.recordOf? fields
  return {
    source := ← r.required "expr" FieldSource.ofJson?
    type := ← r.required "type" (Json.name? FieldType.named?)
    grain := ← r.nullable "time_grain" (Json.name? TimeGrain.named?)
    description := ← r.nullable "description" Json.text? }

end Dimension

namespace Metric

def fields : List Json.Field :=
  [.needed "aggregation" (.name (Aggregate.all.map (·.name))),
   .defaulted "expr" (.nullable FieldSource.form),
   .defaulted "type" (.name (FieldType.all.map (·.name))),
   .defaulted "description" (.nullable .text)]

def toJson (m : Metric) : Json :=
  .object
    [("aggregation", .text m.aggregation.name), ("expr", .ofOption FieldSource.toJson m.source),
     ("type", .text m.type.name), ("description", .ofOption .text m.description)]

def ofJson? (json : Json) : Option Metric := do
  let r ← json.recordOf? fields
  return {
    aggregation := ← r.required "aggregation" (Json.name? Aggregate.named?)
    source := ← r.nullable "expr" FieldSource.ofJson?
    type := ← r.getD "type" (Json.name? FieldType.named?) .float
    description := ← r.nullable "description" Json.text? }

end Metric

/-! ## joins -/

namespace JoinKey

def fields : List Json.Field := [.needed "left" .text, .needed "right" .text]

def toJson (k : JoinKey) : Json := .object [("left", .text k.left), ("right", .text k.right)]

def ofJson? (json : Json) : Option JoinKey := do
  let r ← json.recordOf? fields
  return { left := ← r.required "left" Json.text?, right := ← r.required "right" Json.text? }

end JoinKey

namespace JoinDefinition

def fields : List Json.Field :=
  [.needed "alias" .text, .needed "table" .text,
   .defaulted "kind" (.name (Sql.JoinKind.all.map (·.name))),
   .needed "on" (.list (.record "JoinKey" JoinKey.fields))]

def toJson (j : JoinDefinition) : Json :=
  .object
    [("alias", .text j.aliasName), ("table", .text j.table), ("kind", .text j.kind.name),
     ("on", .ofList JoinKey.toJson j.keys)]

def ofJson? (json : Json) : Option JoinDefinition := do
  let r ← json.recordOf? fields
  return {
    aliasName := ← r.required "alias" Json.text?
    table := ← r.required "table" Json.text?
    kind := ← r.getD "kind" (Json.name? Sql.JoinKind.named?) .left
    keys := ← r.required "on" (Json.list? JoinKey.ofJson?) }

end JoinDefinition

/-! ## datasets -/

/-- A base relation: a table, or the SQL of a subquery. -/
def baseToJson : Sql.Relation → Json
  | .table name => Sql.tagged "table" (.text name)
  | .subquery sql => Sql.tagged "sql" (.text sql)

def baseForm : Json.Form := .tagged [("table", .text), ("sql", .text)]

def baseOfJson? : Json → Option Sql.Relation :=
  Json.tagged? fun tag content =>
    match tag with
    | "table" => content.text?.map .table
    | "sql" => content.text?.map .subquery
    | _ => none

namespace Dataset

def fields : List Json.Field :=
  [.needed "id" .text, .needed "source_id" .text,
   .defaulted "dialect" (.name (Dialect.all.map (·.name))),
   .needed "base" baseForm, .defaulted "alias" .text,
   .defaulted "dimensions" (.map (.record "Dimension" Dimension.fields)),
   .defaulted "metrics" (.map (.record "Metric" Metric.fields)),
   .defaulted "joins" (.list (.record "JoinDef" JoinDefinition.fields)),
   .defaulted "tenant_column" (.nullable .text), .defaulted "rls_required" .boolean,
   .defaulted "cache_ttl_secs" (.nullable .natural), .defaulted "description" (.nullable .text)]

def toJson (d : Dataset) : Json :=
  .object
    [("id", .text d.id), ("source_id", .text d.source), ("dialect", .text d.dialect.name),
     ("base", baseToJson d.base), ("alias", .text d.aliasName),
     ("dimensions", .ofMap Dimension.toJson d.dimensions),
     ("metrics", .ofMap Metric.toJson d.metrics), ("joins", .ofList JoinDefinition.toJson d.joins),
     ("tenant_column", .ofOption .text d.tenantColumn),
     ("rls_required", .boolean d.tenancyRequired),
     ("cache_ttl_secs", .ofOption .ofNat d.cacheSeconds),
     ("description", .ofOption .text d.description)]

def ofJson? (json : Json) : Option Dataset := do
  let r ← json.recordOf? fields
  return {
    id := ← r.required "id" Json.text?
    source := ← r.required "source_id" Json.text?
    dialect := ← r.getD "dialect" (Json.name? Dialect.named?) .postgresql
    base := ← r.required "base" baseOfJson?
    aliasName := ← r.getD "alias" Json.text? "base"
    dimensions := ← r.getD "dimensions" (Json.map? Dimension.ofJson?) .empty
    metrics := ← r.getD "metrics" (Json.map? Metric.ofJson?) .empty
    joins := ← r.getD "joins" (Json.list? JoinDefinition.ofJson?) []
    tenantColumn := ← r.nullable "tenant_column" Json.text?
    tenancyRequired := ← r.getD "rls_required" Json.boolean? true
    cacheSeconds := ← r.nullable "cache_ttl_secs" Json.natural?
    description := ← r.nullable "description" Json.text? }

end Dataset

/-! ## summaries -/

def FieldSummary.toJson (f : FieldSummary) : Json :=
  .object
    [("id", .text f.id), ("type", .text f.type.name),
     ("description", .ofOption .text f.description)]

def DatasetSummary.toJson (s : DatasetSummary) : Json :=
  .object
    [("id", .text s.id), ("source_id", .text s.source), ("dialect", .text s.dialect.name),
     ("description", .ofOption .text s.description),
     ("dimensions", .ofList FieldSummary.toJson s.dimensions),
     ("metrics", .ofList FieldSummary.toJson s.metrics)]

end AnalyticsGateway
