import AnalyticsGateway.Gateway.State

/-!
# Steps of a gateway

A gateway moves by events, which may come in any order: visits come and go and take their steps, the
caches move, sources answer, and the clock goes on. An event that cannot happen changes nothing.
-/

namespace AnalyticsGateway

namespace Gateway

variable {σ : Type} [SharedStore σ String]

/-! ## visits -/

def onlyAdmins (caller : Caller) (deed : String) : Except GatewayError Unit :=
  if caller.isAdmin then return else throw (.forbidden s!"Only admins may {deed}")

/-- What an action asks of its caller before anything else. -/
def checkCaller (caller : Caller) : Action → Except GatewayError Unit
  | .describe _ => onlyAdmins caller "describe sources"
  | .reloadCatalog => onlyAdmins caller "reload the catalog"
  | .cacheStats => onlyAdmins caller "read cache statistics"
  | .query _ | .explain _ | .listDatasets => return

/-- The bucket that an action is paid from. -/
def route? : Action → Option Route
  | .query _ => some .query
  | .explain _ | .listDatasets | .describe _ => some .metadata
  | .reloadCatalog | .cacheStats => none

/-- Takes a token out of the caller's bucket. -/
def pay (g : Gateway σ) (failing : List StoreOperation) (caller : Caller) (route : Route) :
    Except GatewayError Unit × Gateway σ :=
  let (answer, store) :=
    g.settings.limiter.takeToken Bucket.textCodec ⟨g.now, failing⟩ caller.keyId route g.cache.store
  let answer := match answer with
    | .ok .allowed => .ok ()
    | .ok (.denied wait) => .error (.rateLimited wait)
    | .error e => .error (.ofStore e)
  (answer, { g with cache := { g.cache with store } })

def enter (g : Gateway σ) (failing : List StoreOperation) (id : Nat) (v : Visit) : Gateway σ :=
  match checkCaller v.caller v.action with
  | .error e => g.finish id (.error e)
  | .ok () =>
    match route? v.action with
    | none => g.setVisit id .preparing
    | some route =>
      match g.pay failing v.caller route with
      | (.ok (), g) => g.setVisit id .preparing
      | (.error e, g) => g.finish id (.error e)

/-- The dataset of a request and its plan, by the catalog of the moment. -/
def plan (g : Gateway σ) (caller : Caller) (request : Request) :
    Except GatewayError (Dataset × Plan) :=
  match g.catalog.current.get? request.dataset with
  | none => throw (.compile (.unknownDataset request.dataset))
  | some dataset => return (dataset, ← dataset.plan g.settings.ceilings caller request)

/-- Asks the cache for the rows of a request. The deadline is a plain sum; `InReach` tells when the
clock reaches it. -/
def fetch (g : Gateway σ) (id : Nat) (v : Visit) (request : Request) : Gateway σ :=
  match g.plan v.caller request with
  | .error e => g.finish id (.error e)
  | .ok (dataset, plan) =>
    let deadline := v.started.add g.settings.queryTimeout
    let cache := g.cache.arrive
      { process := v.process, key := plan.key, ttl := dataset.timeToLive g.settings.timeToLive,
        deadline,
        job := ⟨dataset.source, plan.sql, deadline⟩ }
    { g with cache }.setVisit id (.fetching g.cache.calls.length)

def explain (g : Gateway σ) (caller : Caller) (request : Request) :
    Except GatewayError Explanation := do
  let (dataset, plan) ← g.plan caller request
  let isCached := dataset.timeToLive g.settings.timeToLive ≠ .zero
  return plan.explanation request isCached

/-- Asks a source for its tables, with as much time as for a query from now. -/
def describe (g : Gateway σ) (id : Nat) (source : String) : Gateway σ :=
  match g.engines.get? source with
  | none => g.finish id (.error (.unknownSource source))
  | some engine =>
    g.setVisit id (.describing source engine (g.now.clock.add g.settings.queryTimeout))

def reloadCatalog (g : Gateway σ) (id : Nat) : Gateway σ :=
  match g.catalog.reload g.file with
  | .ok catalog => { g with catalog }.finish id (.ok (.version catalog.version))
  | .error e => g.finish id (.error (.catalog e))

def prepare (g : Gateway σ) (id : Nat) (v : Visit) : Gateway σ :=
  match v.action with
  | .query request => g.fetch id v request
  | .explain request => g.finish id ((g.explain v.caller request).map .explanation)
  | .listDatasets => g.finish id (.ok (.datasets g.catalog.current.summaries))
  | .describe source => g.describe id source
  | .reloadCatalog => g.reloadCatalog id
  | .cacheStats => g.finish id (.ok (.stats (g.stats v.process)))

/-- The next step of a visit. -/
def stepVisit (g : Gateway σ) (failing : List StoreOperation) (id : Nat) : Gateway σ :=
  match g.visits[id]? with
  | none => g
  | some v =>
    match v.stage with
    | .entering => g.enter failing id v
    | .preparing => g.prepare id v
    | .fetching call =>
      match g.cache.calls[call]?.bind fun call => call.stage.result? with
      | some result => g.finish id (result.map .result)
      | none => g
    | .describing .. | .done _ | .cancelled => g

/-- Takes away the statements that nobody waits for. -/
def dropDispatches (g : Gateway σ) : Gateway σ :=
  { g with dispatches := g.dispatches.filter fun entry => (g.cache.job? entry.1).isSome }

def cancelVisit (g : Gateway σ) (id : Nat) : Gateway σ :=
  match g.visits[id]? with
  | none => g
  | some v =>
    if v.stage.isPending then
      let g := g.setVisit id .cancelled
      match v.stage with
      | .fetching call => { g with cache := g.cache.cancel call }.dropDispatches
      | _ => g
    else g

/-! ## sources -/

/-- Hands on the result of a statement that is done. -/
def settle (g : Gateway σ) (runner : Runner) (d : Dispatch) : Gateway σ :=
  match d.result? with
  | some result => { g with cache := g.cache.complete runner result }.dropDispatches
  | none => g.setDispatch runner d

/-- Sends off the statement of a job. -/
def startJob (g : Gateway σ) (runner : Runner) : Gateway σ :=
  match g.dispatch? runner, g.cache.job? runner with
  | none, some job =>
    let now := g.now.clock
    g.settle runner (.start g.engines job.source job.sql (job.deadline.sub now) now)
  | _, _ => g

def answerJob (g : Gateway σ) (runner : Runner) (outcome : Except SourceError RowSet) : Gateway σ :=
  match g.dispatch? runner with
  | some d => g.settle runner (d.answer g.now.clock outcome)
  | none => g

def expireJob (g : Gateway σ) (runner : Runner) : Gateway σ :=
  match g.dispatch? runner with
  | some d => g.settle runner (d.expire g.now.clock)
  | none => g

/-- The tables that a source has been asked for. -/
def answerVisit (g : Gateway σ) (id : Nat) (outcome : Except SourceError (List TableSchema)) :
    Gateway σ :=
  match g.visits[id]? with
  | none => g
  | some v =>
    match v.stage with
    | .describing source engine _ =>
      g.finish id ((outcome.mapError .source).map fun tables => .schema ⟨source, engine, tables⟩)
    | _ => g

def expireVisit (g : Gateway σ) (id : Nat) : Gateway σ :=
  match g.visits[id]? with
  | none => g
  | some v =>
    match v.stage with
    | .describing _ _ deadline =>
      if deadline ≤ g.now.clock then g.finish id (.error (.timeout g.settings.queryTimeout)) else g
    | _ => g

/-! ## events -/

def visit (g : Gateway σ) (process : Nat) (caller : Caller) (action : Action) : Gateway σ :=
  { g with visits := g.visits ++ [{ process, caller, action, started := g.now.clock }] }

def replaceCatalog (g : Gateway σ) (datasets : List Dataset) : Except CatalogError (Gateway σ) := do
  return { g with catalog := ← g.catalog.replace datasets }

end Gateway

inductive GatewayEvent where
  | tick (now : Moment)
  | visit (process : Nat) (caller : Caller) (action : Action)
  | stepVisit (id : Nat) (failing : List StoreOperation)
  | cancelVisit (id : Nat)
  | stepCall (id : Nat) (failing : List StoreOperation)
  | stepFlight (id : Nat) (failing : List StoreOperation)
  | releaseAbandoned (failing : List StoreOperation)
  | purge (failing : List StoreOperation)
  | startJob (runner : Runner)
  | answerJob (runner : Runner) (outcome : Except SourceError RowSet)
  | expireJob (runner : Runner)
  | answerVisit (id : Nat) (outcome : Except SourceError (List TableSchema))
  | expireVisit (id : Nat)
  | replaceCatalog (datasets : List Dataset)
  | writeFile (text : String)

namespace Gateway

variable {σ : Type} [SharedStore σ String]

/-- Lets the caches move. -/
def stepCache (g : Gateway σ) (event : CacheEvent Job) : Gateway σ :=
  { g with cache := g.cache.step event }

def step (g : Gateway σ) : GatewayEvent → Gateway σ
  | .tick now => g.stepCache (.tick now)
  | .visit process caller action => g.visit process caller action
  | .stepVisit id failing => g.stepVisit failing id
  | .cancelVisit id => g.cancelVisit id
  | .stepCall id failing => g.stepCache (.stepCall id failing)
  | .stepFlight id failing => g.stepCache (.stepFlight id failing)
  | .releaseAbandoned failing => g.stepCache (.releaseAbandoned failing)
  | .purge failing => g.stepCache (.purge failing)
  | .startJob runner => g.startJob runner
  | .answerJob runner outcome => g.answerJob runner outcome
  | .expireJob runner => g.expireJob runner
  | .answerVisit id outcome => g.answerVisit id outcome
  | .expireVisit id => g.expireVisit id
  | .replaceCatalog datasets =>
    match g.replaceCatalog datasets with
    | .ok g => g
    | .error _ => g
  | .writeFile text => { g with file := some text }

def run (g : Gateway σ) (events : List GatewayEvent) : Gateway σ := events.foldl step g

end Gateway

end AnalyticsGateway
