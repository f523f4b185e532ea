import AnalyticsGateway.Cache.Cluster

/-!
# Steps of the caches

The caches move by events: the clock goes on, calls come and go, and each call and flight takes its
next step, which uses the store once at most. Events may come in any order; one that cannot happen
changes nothing.
-/

namespace AnalyticsGateway

/-- What a look into the store finds under a key. -/
inductive Lookup where
  | found (rows : RowSet)
  /-- An entry after its time. -/
  | expired
  /-- Nothing, or nothing that is an entry. -/
  | absent
  | failed (error : StoreError)
deriving Inhabited

namespace Lookup

def ofText (now : Int) (text : String) : Lookup :=
  match CacheEntry.ofText? text with
  | some entry => if entry.isExpired now then expired else found entry.rows
  | none => absent

def ofAnswer (now : Int) : Except StoreError (Option String) → Lookup
  | .ok (some text) => ofText now text
  | .ok none => absent
  | .error e => failed e

def isExpired : Lookup → Bool
  | expired => true
  | _ => false

end Lookup

namespace CacheCluster

variable {σ ω : Type} [SharedStore σ String]

def circumstances (s : CacheCluster σ ω) (failing : List StoreOperation) : Circumstances :=
  ⟨s.now, failing⟩

/-- Looks for the entry of a key. -/
def look (s : CacheCluster σ ω) (failing : List StoreOperation) (key : CacheKey) : Lookup :=
  let get store := (SharedStore.get s.now key.entry store, store)
  .ofAnswer s.now.time.nanoseconds ((s.circumstances failing).attempt .get get s.store).1

def countExpired (s : CacheCluster σ ω) (process : Nat) (lookup : Lookup) : CacheCluster σ ω :=
  if lookup.isExpired then s.count process fun n => { n with expirations := n.expirations + 1 }
  else s

/-- Runs an operation on the store. -/
def useStore {α : Type} (s : CacheCluster σ ω) (failing : List StoreOperation)
    (operation : StoreOperation) (run : σ → α × σ) : Except StoreError α × CacheCluster σ ω :=
  let (answer, store) := (s.circumstances failing).attempt operation run s.store
  (answer, { s with store })

def countStoreError (s : CacheCluster σ ω) (process : Nat) : CacheCluster σ ω :=
  s.count process fun n => { n with storeErrors := n.storeErrors + 1 }

def countExecution (s : CacheCluster σ ω) (process : Nat) : CacheCluster σ ω :=
  s.count process fun n => { n with executions := n.executions + 1 }

/-! ## flights -/

def landFlight (s : CacheCluster σ ω) (id : Nat) (result : FlightResult) : CacheCluster σ ω :=
  s.setFlight id (.landed result)

def claimLease (s : CacheCluster σ ω) (failing : List StoreOperation) (id : Nat) (f : Flight ω) :
    CacheCluster σ ω :=
  let (answer, s) :=
    s.useStore failing .claim (SharedStore.claim s.now f.key.lease f.owner s.settings.span)
  match answer with
  | .ok true => s.setFlight id .rechecking
  | .ok false =>
    let s := s.count f.process fun n => { n with leaseConflicts := n.leaseConflicts + 1 }
    let now := s.now.clock
    if f.deadline ≤ now then s.landFlight id (.error (.timeout (now.sub f.started)))
    else s.setFlight id (.waiting (now.add (min s.settings.poll (f.deadline.sub now))))
  | .error _ =>
    ((s.countStoreError f.process).countExecution f.process).setFlight id (.running none)

def recheck (s : CacheCluster σ ω) (failing : List StoreOperation) (id : Nat) (f : Flight ω) :
    CacheCluster σ ω :=
  let lookup := s.look failing f.key
  let s := s.countExpired f.process lookup
  match lookup with
  | .found rows => s.setFlight id (.releasing (.ok ⟨rows, true⟩))
  | _ =>
    (s.countExecution f.process).setFlight id (.running (some (s.now.clock.add s.settings.renewal)))

def renewLease (s : CacheCluster σ ω) (failing : List StoreOperation) (id : Nat) (f : Flight ω)
    (due : Instant) : CacheCluster σ ω :=
  let renew := SharedStore.renew s.now f.key.lease f.owner s.settings.span
  (s.useStore failing .renew renew).2.setFlight id (.running (some (due.add s.settings.renewal)))

def publish (s : CacheCluster σ ω) (failing : List StoreOperation) (id : Nat) (f : Flight ω)
    (entry : CacheEntry) : CacheCluster σ ω :=
  let put store :=
    ((), SharedStore.publish s.now f.key.entry entry.text f.ttl f.key.lease f.owner store)
  let result : FlightResult := .ok ⟨entry.rows, false⟩
  match s.useStore failing .publish put with
  | (.ok (), s) => s.landFlight id result
  | (.error _, s) => (s.countStoreError f.process).setFlight id (.releasing result)

def releaseLease (s : CacheCluster σ ω) (failing : List StoreOperation) (id : Nat) (f : Flight ω)
    (result : FlightResult) : CacheCluster σ ω :=
  let release := SharedStore.release s.now f.key.lease f.owner
  (s.useStore failing .release release).2.landFlight id result

def poll (s : CacheCluster σ ω) (failing : List StoreOperation) (id : Nat) (f : Flight ω) :
    CacheCluster σ ω :=
  let lookup := s.look failing f.key
  let s := s.countExpired f.process lookup
  match lookup with
  | .found rows => s.landFlight id (.ok ⟨rows, true⟩)
  | _ => s.setFlight id .claiming

/-- The next step of a flight. -/
def stepFlight (s : CacheCluster σ ω) (failing : List StoreOperation) (id : Nat) :
    CacheCluster σ ω :=
  match s.flights[id]? with
  | none => s
  | some f =>
    match f.stage with
    | .claiming => s.claimLease failing id f
    | .rechecking => s.recheck failing id f
    | .running (some due) => if due ≤ s.now.clock then s.renewLease failing id f due else s
    | .publishing entry => s.publish failing id f entry
    | .releasing result => s.releaseLease failing id f result
    | .waiting till => if till ≤ s.now.clock then s.setFlight id .polling else s
    | .polling => s.poll failing id f
    | .running none | .landed _ | .deserted => s

/-! ## calls -/

def lookUp (s : CacheCluster σ ω) (failing : List StoreOperation) (id : Nat) (c : CacheCall ω) :
    CacheCluster σ ω :=
  let lookup := s.look failing c.key
  let s := s.countExpired c.process lookup
  match lookup with
  | .found rows =>
    let s := s.count c.process fun n => { n with hits := n.hits + 1 }
    s.setCall id (.returned (c.answer s.now.clock (.ok ⟨rows, true⟩)))
  | .failed _ => (s.countStoreError c.process).setCall id .joining
  | _ => s.setCall id .joining

def newFlight (s : CacheCluster σ ω) (c : CacheCall ω) : Flight ω :=
  { c.toCacheRequest with owner := toString s.flights.length, started := s.now.clock }

def join (s : CacheCluster σ ω) (id : Nat) (c : CacheCall ω) : CacheCluster σ ω :=
  match s.flightOf? c.process c.key with
  | some flight =>
    (s.count c.process fun n => { n with coalesced := n.coalesced + 1 }).setCall id (.flying flight)
  | none =>
    let flight := s.flights.length
    let s := { s with flights := s.flights ++ [s.newFlight c] }
    (s.setInFlight c.process fun table => table.insert c.key.text flight).setCall id
      (.flying flight)

/-- Takes a flight off the table, or one that nobody keeps up. -/
def forget (s : CacheCluster σ ω) (c : CacheCall ω) (flight : Nat) : CacheCluster σ ω :=
  match s.processes[c.process]?.bind fun p => p.inFlight.get? c.key.text with
  | some other =>
    if other = flight ∨ !s.isKeptUp other then
      s.setInFlight c.process fun table => table.erase c.key.text
    else s
  | none => s

def leave (s : CacheCluster σ ω) (id : Nat) (c : CacheCall ω) (flight : Nat)
    (result : FlightResult) :
    CacheCluster σ ω :=
  let s := s.forget c flight
  let isHit := match result with
    | .ok served => served.fromStore
    | .error _ => false
  let s := s.count c.process fun n =>
    if isHit then { n with hits := n.hits + 1 } else { n with misses := n.misses + 1 }
  s.setCall id (.returned (c.answer s.now.clock result))

/-- The next step of a call. -/
def stepCall (s : CacheCluster σ ω) (failing : List StoreOperation) (id : Nat) : CacheCluster σ ω :=
  match s.calls[id]? with
  | none => s
  | some c =>
    match c.stage with
    | .looking => s.lookUp failing id c
    | .joining => s.join id c
    | .flying flight =>
      match s.flights[flight]?.bind fun f => f.stage.result? with
      | some result => s.setCall id (.leaving flight result)
      | none => s
    | .leaving flight result => s.leave id c flight result
    | .running | .returned _ | .cancelled => s

/-! ## events -/

def arrive (s : CacheCluster σ ω) (request : CacheRequest ω) : CacheCluster σ ω :=
  let stage := if request.ttl = .zero then .running else .looking
  { s with calls := s.calls ++ [{ request with started := s.now.clock, stage }] }

/-- The end of a job. -/
def complete (s : CacheCluster σ ω) (runner : Runner) (result : Except GatewayError RowSet) :
    CacheCluster σ ω :=
  match runner with
  | .call id =>
    match s.calls[id]? with
    | some c =>
      if c.stage.isRunning then
        s.setCall id (.returned (c.answer s.now.clock (result.map fun rows => ⟨rows, false⟩)))
      else s
    | none => s
  | .flight id =>
    match s.flights[id]? with
    | some f =>
      match f.stage, result with
      | .running (some _), .ok rows =>
        s.setFlight id (.publishing (.new rows f.ttl s.now.time.nanoseconds))
      | .running (some _), .error e => s.setFlight id (.releasing (.error e))
      | .running none, result => s.landFlight id (result.map fun rows => ⟨rows, false⟩)
      | _, _ => s
    | none => s

/-- Ends a flight that no call keeps up any more, and leaves its lease to be given up. -/
def desert (s : CacheCluster σ ω) (id : Nat) : CacheCluster σ ω :=
  match s.flights[id]? with
  | none => s
  | some f =>
    match f.stage with
    | .landed _ | .deserted => s
    | stage =>
      let lease := if stage.hasGuard then [⟨f.key.lease, f.owner⟩] else []
      { s with abandoned := s.abandoned ++ lease }.setFlight id .deserted

def cancel (s : CacheCluster σ ω) (id : Nat) : CacheCluster σ ω :=
  match s.calls[id]? with
  | none => s
  | some c =>
    if c.stage.isPending then
      let s := s.setCall id .cancelled
      match c.stage.flight? with
      | some flight => if s.isKeptUp flight then s else s.desert flight
      | none => s
    else s

/-- Gives up the first of the abandoned leases. -/
def releaseAbandoned (s : CacheCluster σ ω) (failing : List StoreOperation) : CacheCluster σ ω :=
  match s.abandoned with
  | [] => s
  | a :: rest =>
    ({ s with abandoned := rest }.useStore failing .release
      (SharedStore.release s.now a.lease a.owner)).2

def purge (s : CacheCluster σ ω) (failing : List StoreOperation) :
    Except StoreError Nat × CacheCluster σ ω :=
  s.useStore failing .purge (SharedStore.purge s.now)

end CacheCluster

inductive CacheEvent (ω : Type) where
  /-- The clock moves to a moment. -/
  | tick (now : Moment)
  | arrive (request : CacheRequest ω)
  | stepCall (id : Nat) (failing : List StoreOperation)
  | stepFlight (id : Nat) (failing : List StoreOperation)
  | complete (runner : Runner) (result : Except GatewayError RowSet)
  | cancel (call : Nat)
  | releaseAbandoned (failing : List StoreOperation)
  | purge (failing : List StoreOperation)

namespace CacheCluster

variable {σ ω : Type} [SharedStore σ String]

def step (s : CacheCluster σ ω) : CacheEvent ω → CacheCluster σ ω
  | .tick now => { s with now }
  | .arrive request => s.arrive request
  | .stepCall id failing => s.stepCall failing id
  | .stepFlight id failing => s.stepFlight failing id
  | .complete runner result => s.complete runner result
  | .cancel call => s.cancel call
  | .releaseAbandoned failing => s.releaseAbandoned failing
  | .purge failing => (s.purge failing).2

def run (s : CacheCluster σ ω) (events : List (CacheEvent ω)) : CacheCluster σ ω :=
  events.foldl step s

end CacheCluster

end AnalyticsGateway
