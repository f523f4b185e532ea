import AnalyticsGateway.Result.Rows
import AnalyticsGateway.Result.Schema
import AnalyticsGateway.Source.Coercion
import AnalyticsGateway.Source.Error

/-!
# Sessions with MySQL servers

Doris speaks the same protocol. All values come as bytes, and columns by the code of their type.
-/

namespace AnalyticsGateway.MySql

/-- What a server can refuse. -/
inductive Stage where
  | startup | query
deriving DecidableEq, Repr, Inhabited

structure Session where
  columns : List ColumnSchema := []
  rows : List (List (Option (List UInt8))) := []
  refusal : Option (Stage × ServerFault) := none
deriving Inhabited

def typeNames : List (Nat × String) :=
  [(0, "decimal"), (1, "bigint"), (2, "bigint"), (3, "bigint"), (4, "double"), (5, "double"),
   (7, "timestamp"), (8, "bigint"), (9, "bigint"), (10, "date"), (12, "timestamp"),
   (13, "bigint"), (14, "date"), (17, "timestamp"), (18, "timestamp"), (245, "json"),
   (246, "decimal")]

/-- Values of any other type are texts. -/
def typeName (code : Nat) : String := (typeNames.lookup code).getD "varchar"

def ofCode (fault : ServerFault) : SourceError :=
  let detail := s!"{fault.message} (error {fault.code})"
  match fault.code with
  | "1044" | "1045" | "1142" | "1143" | "1227" => { kind := .credentials, detail }
  | "1054" | "1064" | "1146" | "1149" | "1305" => { kind := .statement, detail }
  | "1040" | "1203" => { kind := .resource, detail, transient := true }
  | "2002" | "2003" | "2006" | "2013" => .connection detail
  | _ => { kind := .resource, detail }

def unreachable (fault : LinkFault) : SourceError :=
  .connection s!"I/O error: Input/output error: {fault.message}"

/-- The session, if the server refuses none of the stages. -/
def admitted (stages : List Stage) (session : Except LinkFault Session) :
    Except SourceError Session := do
  let session ← session.mapError unreachable
  match session.refusal with
  | some (stage, fault) => if stages.contains stage then throw (ofCode fault)
  | none => pure ()
  return session

def connect (session : Except LinkFault Session) : Except SourceError Unit :=
  (admitted [.startup] session).map fun _ => ()

/-- Bytes that are no text have no value. -/
def valueOfBytes (dataType : String) : Option (List UInt8) → Json
  | none => .null
  | some bytes =>
    match String.fromUTF8? ⟨bytes.toArray⟩ with
    | some text => valueOfText dataType (some text)
    | none => .null

def valuesOf (columns : List ColumnSchema) (row : List (Option (List UInt8))) : List Json :=
  columns.mapIdx fun i column => valueOfBytes column.dataType (row[i]?.join)

def execute (session : Except LinkFault Session) : Except SourceError RowSet :=
  (admitted [.startup, .query] session).map fun session =>
    { columns := session.columns, rows := session.rows.map (valuesOf session.columns) }

def columnRow? (row : List (Option (List UInt8))) : Option ColumnRow := do
  let texts ← row.mapM fun cell => cell.bind fun bytes => String.fromUTF8? ⟨bytes.toArray⟩
  match texts with
  | [schema, table, column, dataType, nullable] =>
    some (.ofTexts schema table column dataType nullable)
  | _ => none

/-- Schemas of Doris that never hold data of its users. -/
def systemSchemas : List String := ["__internal_schema", "information_schema", "mysql"]

def describe (excluded : List String) (session : Except LinkFault Session) :
    Except SourceError (List TableSchema) :=
  (admitted [.startup, .query] session).map fun session =>
    let rows := session.rows.filterMap columnRow?
    TableSchema.ofRows (rows.filter fun row => !excluded.any fun name => row.schema = some name)

end AnalyticsGateway.MySql
