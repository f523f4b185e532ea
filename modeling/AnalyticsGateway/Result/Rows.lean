import AnalyticsGateway.Json.Form

/-!
# Results

The rows that a source returns, and the answer that is made of them.
-/

namespace AnalyticsGateway

structure ColumnSchema where
  name : String
  dataType : String
deriving DecidableEq, Repr, Inhabited

structure RowSet where
  columns : List ColumnSchema := []
  rows : List (List Json) := []
deriving Inhabited

structure QueryResult where
  rows : RowSet
  elapsedMilliseconds : Nat
  cacheHit : Bool
deriving Inhabited

/-! ## in JSON -/

namespace ColumnSchema

def fields : List Json.Field := [.needed "name" .text, .needed "data_type" .text]

def toJson (c : ColumnSchema) : Json :=
  .object [("name", .text c.name), ("data_type", .text c.dataType)]

def ofJson? (json : Json) : Option ColumnSchema := do
  let r ← json.recordOf? fields
  return {
    name := ← r.required "name" Json.text?
    dataType := ← r.required "data_type" Json.text? }

end ColumnSchema

namespace RowSet

def fields : List Json.Field :=
  [.needed "columns" (.list (.record "column" ColumnSchema.fields)),
   .needed "rows" (.list (.list .any))]

def rowsOfJson? : Json → Option (List (List Json)) :=
  Json.list? (Json.list? fun cell => some cell.canonical)

def jsonFields (r : RowSet) : List (String × Json) :=
  [("columns", .ofList ColumnSchema.toJson r.columns), ("rows", .ofList .array r.rows)]

def toJson (r : RowSet) : Json := .object r.jsonFields

def ofJson? (json : Json) : Option RowSet := do
  let r ← json.recordOf? fields
  return {
    columns := ← r.required "columns" (Json.list? ColumnSchema.ofJson?)
    rows := ← r.required "rows" rowsOfJson? }

end RowSet

def QueryResult.toJson (r : QueryResult) : Json :=
  let stats := Json.object
    [("elapsed_ms", .ofNat r.elapsedMilliseconds), ("cache_hit", .boolean r.cacheHit),
     ("row_count", .ofNat r.rows.rows.length)]
  .object (r.rows.jsonFields ++ [("stats", stats)])

end AnalyticsGateway
