import AnalyticsGateway.Cache.Flight
import AnalyticsGateway.Cache.Stats
import AnalyticsGateway.SortedMap
import AnalyticsGateway.Store.Basic

/-!
# The caches of a cluster

A call asks for the rows of a key. It looks into the store, then joins the flight of its key or
starts one; each of its stages names the step that comes next. The caches of all processes are over
one store. Calls and flights are known by their place in the list of all that there have been, so
that a state holds its own history.
-/

namespace AnalyticsGateway

/-! ## calls -/

inductive CallStage where
  /-- Runs its job itself, without a cache. -/
  | running
  /-- Looks for an entry. -/
  | looking
  /-- Joins the flight of its key, or starts one. -/
  | joining
  | flying (flight : Nat)
  /-- Takes a flight that has landed off the table. -/
  | leaving (flight : Nat) (result : FlightResult)
  | returned (result : Except GatewayError QueryResult)
  | cancelled
deriving Inhabited

namespace CallStage

/-- The flight that the call keeps up. -/
def flight? : CallStage → Option Nat
  | flying flight | leaving flight _ => some flight
  | _ => none

def isRunning : CallStage → Bool
  | running => true
  | _ => false

/-- Whether the call has neither returned nor been cancelled. -/
def isPending : CallStage → Bool
  | returned _ | cancelled => false
  | _ => true

def result? : CallStage → Option (Except GatewayError QueryResult)
  | returned result => some result
  | _ => none

end CallStage

structure CacheCall (ω : Type) extends CacheRequest ω where
  started : Instant
  stage : CallStage

namespace CacheCall

variable {ω : Type}

def elapsed (call : CacheCall ω) (now : Instant) : Nat := (now.sub call.started).milliseconds

/-- The answer that is made of a result. -/
def answer (call : CacheCall ω) (now : Instant) (result : FlightResult) :
    Except GatewayError QueryResult :=
  result.map fun served => ⟨served.rows, call.elapsed now, served.fromStore⟩

end CacheCall

/-! ## caches -/

/-- The cache of one process. -/
structure CacheProcess where
  stats : CacheStats := {}
  /-- The flights by key; one that nobody keeps up is as good as absent. -/
  inFlight : SortedMap Nat := .empty
deriving Inhabited

/-- A lease that is still to be given up for a deserted flight. -/
structure AbandonedLease where
  lease : String
  owner : String
deriving DecidableEq, Repr, Inhabited

/-- Who runs a job. -/
inductive Runner where
  | call (id : Nat)
  | flight (id : Nat)
deriving DecidableEq, Repr, Inhabited

structure CacheCluster (σ ω : Type) where
  now : Moment
  settings : LeaseSettings
  store : σ
  processes : List CacheProcess
  calls : List (CacheCall ω) := []
  flights : List (Flight ω) := []
  abandoned : List AbandonedLease := []

namespace CacheCluster

variable {σ ω : Type}

def setCall (s : CacheCluster σ ω) (id : Nat) (stage : CallStage) : CacheCluster σ ω :=
  { s with calls := s.calls.modify id fun call => { call with stage } }

def setFlight (s : CacheCluster σ ω) (id : Nat) (stage : FlightStage) : CacheCluster σ ω :=
  { s with flights := s.flights.modify id fun flight => { flight with stage } }

def count (s : CacheCluster σ ω) (process : Nat) (change : CacheStats → CacheStats) :
    CacheCluster σ ω :=
  { s with processes := s.processes.modify process fun p => { p with stats := change p.stats } }

def setInFlight (s : CacheCluster σ ω) (process : Nat) (change : SortedMap Nat → SortedMap Nat) :
    CacheCluster σ ω :=
  { s with processes := s.processes.modify process fun p =>
      { p with inFlight := change p.inFlight } }

/-- Whether a call keeps up a flight. -/
def isKeptUp (s : CacheCluster σ ω) (flight : Nat) : Bool :=
  s.calls.any fun call => call.stage.flight? == some flight

/-- The flight of a key that calls of a process can join. -/
def flightOf? (s : CacheCluster σ ω) (process : Nat) (key : CacheKey) : Option Nat := do
  let flight ← (← s.processes[process]?).inFlight.get? key.text
  guard (s.isKeptUp flight)
  return flight

def job? (s : CacheCluster σ ω) : Runner → Option ω
  | .call id => do
    let call ← s.calls[id]?
    guard call.stage.isRunning
    return call.job
  | .flight id => do
    let flight ← s.flights[id]?
    guard flight.stage.isRunning
    return flight.job

end CacheCluster

end AnalyticsGateway
