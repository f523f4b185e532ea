import AnalyticsGateway.Json.Record

/-!
# Schemas of sources

Tables with their columns, as an information schema lists them column by column.
-/

namespace AnalyticsGateway

structure ColumnInfo where
  name : String
  dataType : String
  isNullable : Bool
deriving DecidableEq, Repr, Inhabited

structure TableSchema where
  name : String
  schema : Option String
  columns : List ColumnInfo
deriving DecidableEq, Repr, Inhabited

/-- A row of an information schema. -/
structure ColumnRow where
  schema : Option String
  table : String
  column : ColumnInfo
deriving DecidableEq, Repr, Inhabited

/-- A column that may be null is marked `YES`. -/
def ColumnRow.ofTexts (schema table column dataType nullable : String) : ColumnRow :=
  ⟨some schema, table, column, dataType, nullable == "YES"⟩

namespace TableSchema

/-- The table of one row. -/
def ofRow (row : ColumnRow) : TableSchema := ⟨row.table, row.schema, [row.column]⟩

def addColumn (t : TableSchema) (column : ColumnInfo) : TableSchema :=
  { t with columns := t.columns ++ [column] }

/-- Puts a row after the tables of the rows before it: into the last of them if it is the same
table, else as a table of its own. -/
def addRow (tables : List TableSchema) (row : ColumnRow) : List TableSchema :=
  match tables.getLast? with
  | some last =>
    if last.name = row.table ∧ last.schema = row.schema then
      tables.dropLast ++ [last.addColumn row.column]
    else tables ++ [ofRow row]
  | none => [ofRow row]

/-- Joins neighbouring rows of one table. -/
def ofRows (rows : List ColumnRow) : List TableSchema := rows.foldl addRow []

/-- The rows of a table. -/
def rows (t : TableSchema) : List ColumnRow :=
  t.columns.map fun column => ⟨t.schema, t.name, column⟩

end TableSchema

/-! ## in JSON -/

namespace ColumnInfo

def fields : List Json.FieldName := [.needed "name", .needed "data_type", .needed "is_nullable"]

def toJson (c : ColumnInfo) : Json :=
  .object
    [("name", .text c.name), ("data_type", .text c.dataType),
     ("is_nullable", .boolean c.isNullable)]

def ofJson? (json : Json) : Option ColumnInfo := do
  let r ← json.record? fields
  return {
    name := ← r.required "name" Json.text?
    dataType := ← r.required "data_type" Json.text?
    isNullable := ← r.required "is_nullable" Json.boolean? }

end ColumnInfo

namespace TableSchema

def fields : List Json.FieldName := [.needed "name", .needed "schema", .needed "columns"]

def toJson (t : TableSchema) : Json :=
  .object
    [("name", .text t.name), ("schema", .ofOption .text t.schema),
     ("columns", .ofList ColumnInfo.toJson t.columns)]

def ofJson? (json : Json) : Option TableSchema := do
  let r ← json.record? fields
  return {
    name := ← r.required "name" Json.text?
    schema := ← r.nullable "schema" Json.text?
    columns := ← r.required "columns" (Json.list? ColumnInfo.ofJson?) }

end TableSchema

/-- A row as an array of schema, table, column, type and whether it is nullable. -/
def ColumnRow.ofJson? : Json → Option ColumnRow
  | .array [schema, table, column, dataType, isNullable] => do
    return {
      schema := ← Json.option? Json.text? schema
      table := ← table.text?
      column := ⟨← column.text?, ← dataType.text?, ← isNullable.boolean?⟩ }
  | _ => none

end AnalyticsGateway
