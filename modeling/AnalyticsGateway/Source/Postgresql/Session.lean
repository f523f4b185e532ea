import AnalyticsGateway.Result.Rows
import AnalyticsGateway.Result.Schema
import AnalyticsGateway.Source.Coercion
import AnalyticsGateway.Source.Error

/-!
# Sessions with PostgreSQL servers

A statement is prepared for the types of its columns, and then run for its rows as texts.
-/

namespace AnalyticsGateway.Postgresql

/-- What a server can refuse. -/
inductive Stage where
  | startup | prepare | query
deriving DecidableEq, Repr, Inhabited

structure Session where
  columns : List ColumnSchema := []
  rows : List (List (Option String)) := []
  refusal : Option (Stage × ServerFault) := none
deriving Inhabited

def typeNames : List (Nat × String) :=
  [(16, "bool"), (20, "int8"), (21, "int2"), (23, "int4"), (25, "text"), (114, "json"),
   (700, "float4"), (701, "float8"), (1007, "_int4"), (1043, "varchar"), (1082, "date"),
   (1114, "timestamp"), (1700, "numeric"), (2950, "uuid")]

/-- The kind of failure goes by the class of the code, its first two characters. -/
def ofState (fault : ServerFault) : SourceError :=
  let detail := s!"{fault.message} (SQLSTATE {fault.code})"
  let hasClass (name : String) := name.toList.isPrefixOf fault.code.toList
  if fault.code = "42501" || hasClass "28" then { kind := .credentials, detail }
  else if hasClass "08" then .connection detail
  else if hasClass "42" || hasClass "22" then { kind := .statement, detail }
  else { kind := .resource, detail, transient := fault.code = "53300" }

def unreachable : SourceError := .connection "error connecting to server"

/-- The session, if the server refuses none of the stages. -/
def admitted (stages : List Stage) (session : Except LinkFault Session) :
    Except SourceError Session := do
  let session ← session.mapError fun _ => unreachable
  match session.refusal with
  | some (stage, fault) => if stages.contains stage then throw (ofState fault)
  | none => pure ()
  return session

def connect (session : Except LinkFault Session) : Except SourceError Unit :=
  (admitted [.startup, .query] session).map fun _ => ()

def valuesOf (columns : List ColumnSchema) (row : List (Option String)) : List Json :=
  columns.mapIdx fun i column => valueOfText column.dataType (row[i]?.join)

def execute (session : Except LinkFault Session) : Except SourceError RowSet :=
  (admitted [.startup, .prepare, .query] session).map fun session =>
    { columns := session.columns, rows := session.rows.map (valuesOf session.columns) }

def columnRow? : List (Option String) → Option ColumnRow
  | [some schema, some table, some column, some dataType, some nullable] =>
    some (.ofTexts schema table column dataType nullable)
  | _ => none

def describe (session : Except LinkFault Session) : Except SourceError (List TableSchema) :=
  (admitted [.startup, .prepare, .query] session).map fun session =>
    TableSchema.ofRows (session.rows.filterMap columnRow?)

end AnalyticsGateway.Postgresql
