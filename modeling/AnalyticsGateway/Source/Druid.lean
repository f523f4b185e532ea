import AnalyticsGateway.Http.Message
import AnalyticsGateway.Json.Reader
import AnalyticsGateway.Result.Rows
import AnalyticsGateway.Result.Schema
import AnalyticsGateway.Source.Error
import AnalyticsGateway.Url.Reader

/-!
# Druid

Statements go to a broker over HTTP; it answers with an array of rows, below a row of column names
and a row of types.
-/

namespace AnalyticsGateway.Druid

/-! ## addresses -/

/-- The beginning of every URL of a broker. -/
def baseUrl (url : Url) : Except SourceError String :=
  let host := (url.host?.map Host.text).getD "localhost"
  match url.scheme with
  | "druid" => .ok ("http://" ++ host ++ ":" ++ toString (url.port?.getD 8888))
  | "http" | "https" => .ok (url.scheme ++ "://" ++ host ++ marked ":" (url.port?.map toString))
  | _ => .error (.connection "URL must use druid://, http://, or https:// scheme for Druid")

def readAddress (address : String) : Except SourceError String := do
  match Url.read address with
  | .error e => throw (.connection s!"Invalid Druid URL: {e.message}")
  | .ok url => baseUrl url

/-! ## answers -/

structure Reply where
  status : Nat
  body : String := ""
deriving DecidableEq, Repr, Inhabited

def ofStatus (status : Nat) (body : String) : SourceError :=
  let detail := s!"Druid SQL query failed ({HttpStatus.text status}): {body}"
  match status with
  | 401 | 403 => { kind := .credentials, detail }
  | 400 => { kind := .statement, detail }
  | 429 => { kind := .resource, detail, transient := true }
  | _ =>
    if HttpStatus.isServerError status then { kind := .resource, detail } else .connection detail

def unreachable (url : String) : SourceError :=
  .connection s!"HTTP request failed: error sending request for url ({url})"

/-- Columns without a name are nameless, columns without a type hold text. -/
def columnOf (name dataType : Json) : ColumnSchema :=
  ⟨name.text?.getD "", Text.lowerAscii (dataType.text?.getD "VARCHAR").toList⟩

/-- Fewer than two rows are no result. -/
def rowSet : List (List Json) → Except SourceError RowSet
  | names :: types :: rows =>
    if names.length ≠ types.length then
      .error (.connection "Malformed Druid response: header rows differ in length")
    else .ok { columns := List.zipWith columnOf names types, rows }
  | _ => .ok {}

def connect (base : String) (exchange : Except LinkFault Reply) : Except SourceError Unit := do
  let reply ← exchange.mapError fun _ => unreachable s!"{base}/status"
  if !HttpStatus.isSuccess reply.status then throw (ofStatus reply.status "status check failed")

def execute (base : String) (exchange : Except LinkFault Reply) : Except SourceError RowSet := do
  let reply ← exchange.mapError fun _ => unreachable s!"{base}/druid/v2/sql"
  if !HttpStatus.isSuccess reply.status then throw (ofStatus reply.status reply.body)
  match (Json.read? reply.body).bind RowSet.rowsOfJson? with
  | none => throw (.connection "Failed to parse Druid response: error decoding response body")
  | some rows => rowSet rows

def columnRow? : List Json → Option ColumnRow
  | schema :: table :: column :: dataType :: nullable :: _ =>
    let text (cell : Json) := cell.text?.getD ""
    some (.ofTexts (text schema) (text table) (text column) (text dataType) (text nullable))
  | _ => none

/-- The tables that a result of five columns lists; shorter rows are passed over. -/
def describe (base : String) (exchange : Except LinkFault Reply) :
    Except SourceError (List TableSchema) :=
  (execute base exchange).map fun result => TableSchema.ofRows (result.rows.filterMap columnRow?)

end AnalyticsGateway.Druid
