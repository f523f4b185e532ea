import AnalyticsGateway.Gateway.Step
import AnalyticsGateway.Moment
import AnalyticsGateway.Result.Rows
import AnalyticsGateway.Result.Schema
import AnalyticsGateway.Source.Error

/-!
# Simulations

A gateway with scripted sources on a clock of its own. A scripted source answers each call with the
next outcome of its script, after the outcome's delay, and with an empty result once the script is
over. The clock stands still as long as anything can happen, and then goes straight to the next
instant at which something can, in whole milliseconds.
-/

namespace AnalyticsGateway

/-! ## sources with a script -/

structure SourceOutcome where
  delay : Duration := .zero
  error : Option SourceError := none
  rows : RowSet := {}
  tables : List TableSchema := []
deriving Inhabited

namespace SourceOutcome

/-- The answer to a statement. -/
def result (o : SourceOutcome) : Except SourceError RowSet :=
  match o.error with
  | some e => .error e
  | none => .ok o.rows

/-- The answer to the question for tables. -/
def description (o : SourceOutcome) : Except SourceError (List TableSchema) :=
  match o.error with
  | some e => .error e
  | none => .ok o.tables

end SourceOutcome

structure ScriptedSource where
  script : List SourceOutcome := []
  /-- The statements since they were last asked for. -/
  executed : List String := []
deriving Inhabited

namespace ScriptedSource

def next (s : ScriptedSource) : SourceOutcome × ScriptedSource :=
  match s.script with
  | [] => ({}, s)
  | outcome :: rest => (outcome, { s with script := rest })

def execute (s : ScriptedSource) (sql : String) : SourceOutcome × ScriptedSource :=
  { s with executed := s.executed ++ [sql] }.next

end ScriptedSource

/-! ## the simulation -/

/-- Who waits for an answer of a source. -/
inductive Asker where
  | job (runner : Runner) (source sql : String)
  | visit (id : Nat) (source : String)
deriving DecidableEq, Repr, Inhabited

structure PendingAnswer where
  asker : Asker
  due : Instant
  outcome : SourceOutcome
deriving Inhabited

structure Simulation (σ : Type) where
  gateway : Gateway σ
  sources : SortedMap ScriptedSource := .empty
  pending : List PendingAnswer := []
  failing : List StoreOperation := []

namespace Simulation

variable {σ : Type}

def clock (s : Simulation σ) : Instant := s.gateway.now.clock

/-! ## sources -/

/-- Those who wait for a source at the moment. -/
def askers (g : Gateway σ) : List Asker :=
  let jobs := g.dispatches.map fun entry => Asker.job entry.1 entry.2.source entry.2.sql
  let visits := g.visits.zipIdx.filterMap fun (visit, id) =>
    match visit.stage with
    | .describing source .. => some (Asker.visit id source)
    | _ => none
  jobs ++ visits

/-- Calls the source of one who waits, the next answer being due after its delay. -/
def ask (s : Simulation σ) (asker : Asker) : Simulation σ :=
  let call name (use : ScriptedSource → SourceOutcome × ScriptedSource) :=
    let (outcome, source) := use ((s.sources.get? name).getD {})
    { s with
      sources := s.sources.insert name source
      pending := s.pending ++ [⟨asker, s.clock.add outcome.delay, outcome⟩] }
  match asker with
  | .job _ source sql => call source fun script => script.execute sql
  | .visit _ source => call source ScriptedSource.next

/-- Forgets the answers that nobody waits for any more, and asks for those that are missing. -/
def askSources (s : Simulation σ) : Simulation σ :=
  let askers := askers s.gateway
  let s := { s with pending := s.pending.filter fun p => askers.contains p.asker }
  askers.foldl (fun s asker => if s.pending.any (·.asker == asker) then s else s.ask asker) s

/-! ## what can happen now -/

/-- The next step that the gateway can take by itself. -/
def ready? (g : Gateway σ) (failing : List StoreOperation) : Option GatewayEvent :=
  let now := g.now.clock
  let cache := g.cache
  let late := g.dispatches.find? fun entry => entry.2.deadline ≤ now
  let lateVisit := g.visits.findIdx? fun v =>
    match v.stage with
    | .describing _ _ deadline => deadline ≤ now
    | _ => false
  let runners := (List.range cache.calls.length).map Runner.call ++
    (List.range cache.flights.length).map Runner.flight
  let job := runners.find? fun runner => (cache.job? runner).isSome && (g.dispatch? runner).isNone
  let visit := g.visits.findIdx? fun v =>
    match v.stage with
    | .entering | .preparing => true
    | .fetching call => (cache.calls[call]?.bind fun call => call.stage.result?).isSome
    | _ => false
  let call := cache.calls.findIdx? fun call =>
    match call.stage with
    | .looking | .joining | .leaving .. => true
    | .flying flight => (cache.flights[flight]?.bind fun f => f.stage.result?).isSome
    | _ => false
  let flight := cache.flights.findIdx? fun f => f.stage.isReady now
  (late.map fun entry => .expireJob entry.1)
    |>.or (lateVisit.map fun id => .expireVisit id)
    |>.or (cache.abandoned.head?.map fun _ => .releaseAbandoned failing)
    |>.or (job.map fun runner => .startJob runner)
    |>.or (visit.map fun id => .stepVisit id failing)
    |>.or (call.map fun id => .stepCall id failing)
    |>.or (flight.map fun id => .stepFlight id failing)

variable [SharedStore σ String]

def apply (s : Simulation σ) (event : GatewayEvent) : Simulation σ :=
  { s with gateway := s.gateway.step event }.askSources

/-- Hands an answer to the one who waits for it. -/
def deliver (s : Simulation σ) (p : PendingAnswer) : Simulation σ :=
  let s := { s with pending := s.pending.filter fun other => other.asker != p.asker }
  match p.asker with
  | .job runner .. => s.apply (.answerJob runner p.outcome.result)
  | .visit id _ => s.apply (.answerVisit id p.outcome.description)

/-- One thing that can happen now; an answer comes before the deadline of the same instant. -/
def happen? (s : Simulation σ) : Option (Simulation σ) :=
  match s.pending.find? fun p => p.due ≤ s.clock with
  | some p => some (s.deliver p)
  | none => (ready? s.gateway s.failing).map s.apply

/-! ## the clock -/

/-- The instants at which something can happen. -/
def wakeUps (s : Simulation σ) : List Instant :=
  let g := s.gateway
  s.pending.map (·.due) ++ g.dispatches.map (·.2.deadline) ++
    g.cache.flights.filterMap (·.stage.wakeUp?) ++
    g.visits.filterMap fun v =>
      match v.stage with
      | .describing _ _ deadline => some deadline
      | _ => none

/-- The next whole millisecond, or the instant itself. -/
def wholeMillisecond (t : Instant) : Instant := ⟨(t.nanoseconds + 999999) / 1000000 * 1000000⟩

def moveTo (s : Simulation σ) (t : Instant) : Simulation σ :=
  s.apply (.tick { s.gateway.now with clock := t })

def pause (s : Simulation σ) (span : Duration) : Simulation σ := s.moveTo (s.clock.add span)

end Simulation

end AnalyticsGateway
