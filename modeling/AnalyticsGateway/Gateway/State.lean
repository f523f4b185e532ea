import AnalyticsGateway.Cache.Step
import AnalyticsGateway.Compile.Ceilings
import AnalyticsGateway.Gateway.Visit
import AnalyticsGateway.RateLimit.Limiter
import AnalyticsGateway.Source.Dispatch

/-!
# The state of a gateway

All processes of a gateway with what they share: the catalog, the sources, and the store.
-/

namespace AnalyticsGateway

structure GatewaySettings where
  ceilings : Ceilings := {}
  lease : LeaseSettings := {}
  limiter : RateLimiter Float := { query := ⟨20, 5⟩, metadata := ⟨60, 10⟩ }
  /-- How long a query may take. Deadlines are this much later than their start, also where a clock
  does not reach them, which it does up to `Instant.last`. -/
  queryTimeout : Duration := .ofSeconds 30
  /-- How long results are good where the dataset does not say. -/
  timeToLive : Duration := .ofSeconds 300

/-- What a call has to run where the cache has no entry. -/
structure Job where
  source : String
  sql : Sql.Rendered
  deadline : Instant
deriving DecidableEq, Repr, Inhabited

/-- A gateway over a store with states `σ`. -/
structure Gateway (σ : Type) where
  settings : GatewaySettings
  engines : Engines
  catalog : Catalog
  /-- What the catalog's file holds, if there is one. -/
  file : Option String := none
  cache : CacheCluster σ Job
  /-- The statements on their way, by who waits for them. -/
  dispatches : List (Runner × Dispatch) := []
  visits : List Visit := []

namespace Gateway

variable {σ : Type}

def start (settings : GatewaySettings) (engines : Engines) (catalog : Catalog) (processes : Nat)
    (now : Moment) (store : σ) : Gateway σ where
  settings
  engines
  catalog
  cache := { now, settings := settings.lease, store, processes := List.replicate processes {} }

def now (g : Gateway σ) : Moment := g.cache.now

def setVisit (g : Gateway σ) (id : Nat) (stage : VisitStage) : Gateway σ :=
  { g with visits := g.visits.modify id fun visit => { visit with stage } }

def finish (g : Gateway σ) (id : Nat) (answer : Except GatewayError Answer) : Gateway σ :=
  g.setVisit id (.done answer)

def dispatch? (g : Gateway σ) (runner : Runner) : Option Dispatch :=
  (g.dispatches.find? fun entry => entry.1 == runner).map (·.2)

def setDispatch (g : Gateway σ) (runner : Runner) (d : Dispatch) : Gateway σ :=
  { g with dispatches := (runner, d) :: g.dispatches.filter fun entry => entry.1 != runner }

def stats (g : Gateway σ) (process : Nat) : CacheStats :=
  (g.cache.processes[process]?.map CacheProcess.stats).getD {}

end Gateway

end AnalyticsGateway
