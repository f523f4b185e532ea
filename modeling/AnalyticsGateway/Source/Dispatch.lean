import AnalyticsGateway.Error
import AnalyticsGateway.Moment
import AnalyticsGateway.Result.Rows
import AnalyticsGateway.SortedMap
import AnalyticsGateway.Source.Engine
import AnalyticsGateway.Sql.Render

/-!
# Dispatch

Rendered SQL is sent to its source until a deadline, once more if the source was too busy to take
it.
-/

namespace AnalyticsGateway

/-- The sources that statements can be sent to. -/
abbrev Engines := SortedMap Engine

inductive DispatchStage where
  /-- The source works on the statement, for the first time or again. -/
  | calling (again : Bool)
  | done (result : Except GatewayError RowSet)
deriving Inhabited

/-- A statement on its way to a source. -/
structure Dispatch where
  source : String
  sql : String
  timeout : Duration
  started : Instant
  stage : DispatchStage
deriving Inhabited

namespace Dispatch

/-- The sum as it is, also past `Instant.last`, where a clock has no instant and a process stops
before it sends the statement. -/
def deadline (d : Dispatch) : Instant := d.started.add d.timeout

def result? (d : Dispatch) : Option (Except GatewayError RowSet) :=
  match d.stage with
  | .done result => some result
  | .calling _ => none

/-- Calls the source if there is time. -/
def call (d : Dispatch) (now : Instant) (again : Bool) : Dispatch :=
  if d.deadline ≤ now then { d with stage := .done (.error (.timeout (now.sub d.started))) }
  else { d with stage := .calling again }

/-- Sends a statement to a source that speaks its dialect. -/
def start (engines : Engines) (source : String) (sql : Sql.Rendered) (timeout : Duration)
    (now : Instant) : Dispatch :=
  let d stage : Dispatch := ⟨source, sql.text, timeout, now, stage⟩
  match engines.get? source with
  | none => d (.done (.error (.unknownSource source)))
  | some engine =>
    if engine.dialect ≠ sql.dialect then
      d (.done (.error (.internal
        s!"SQL rendered for {sql.dialect.name} cannot run on source '{source}' ({engine.dialect.name})")))
    else (d (.calling false)).call now false

/-- The answer of the source. -/
def answer (d : Dispatch) (now : Instant) (outcome : Except SourceError RowSet) : Dispatch :=
  match d.stage, outcome with
  | .calling false, .error e =>
    if e.isRetryable then d.call now true else { d with stage := .done (.error (.source e)) }
  | .calling true, .error e => { d with stage := .done (.error (.source e)) }
  | .calling _, .ok rows => { d with stage := .done (.ok rows) }
  | .done _, _ => d

/-- The deadline without an answer. -/
def expire (d : Dispatch) (now : Instant) : Dispatch :=
  match d.stage with
  | .calling _ =>
    if d.deadline ≤ now then { d with stage := .done (.error (.timeout d.timeout)) } else d
  | .done _ => d

end Dispatch

end AnalyticsGateway
