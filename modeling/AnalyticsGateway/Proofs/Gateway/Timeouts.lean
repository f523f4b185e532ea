import AnalyticsGateway.Proofs.Cache.Failures
import AnalyticsGateway.Proofs.Gateway.Sources
import AnalyticsGateway.Proofs.Gateway.Timely

/-!
# Queries that are timed out

A query is timed out when its own deadline has come, or when the deadline has come of the query that
has started the flight which it has joined (`timed_out_late`).
-/

namespace AnalyticsGateway

/-- Under a clock that never goes back, a query is not timed out before the time for it is over,
counted from its arrival; if it has joined the flight of another one, it may be counted from the
arrival of that one. -/
theorem timed_out_late {σ : Type} [SharedStore σ String] (settings : GatewaySettings)
    (engines : Engines) (catalog : Catalog) (processes : Nat) (now : Moment) (store : σ)
    (events : List GatewayEvent) (start : Gateway σ)
    (starts : start = .start settings engines catalog processes now store)
    (forward : start.GoesForward events) (id : Nat) (v : Visit) (request : Request)
    (after : Duration) (hv : (start.run events).visits[id]? = some v)
    (action : v.action = .query request) (stage : v.stage = .done (.error (.timeout after))) :
    v.started.add settings.queryTimeout ≤ (start.run events).now.clock ∨
      ∃ came, start.Joins events id came ∧
        came.add settings.queryTimeout ≤ (start.run events).now.clock := by
  have inv := Timely.run settings engines catalog processes now store events start starts forward
  subst starts
  obtain ⟨call, r, fetches, hr, deadline, r', hr', late⟩ := inv.done hv action stage
  cases hr.symm.trans hr'
  rcases late with late | ⟨flight, r', flies, hr', late⟩
  · rw [deadline] at late
    exact .inl late
  · obtain ⟨other, launches, same⟩ := inv.launched hr'
    by_cases own : other = call
    · subst own
      cases hr.symm.trans same
      rw [deadline] at late
      exact .inl late
    · obtain ⟨leader, came, leads, deadline'⟩ := inv.called same
      rw [deadline'] at late
      exact .inr
        ⟨came, ⟨call, _, other, flight, leader, fetches, flies, launches, own, leads⟩, late⟩

/-! ## a query that joins another one -/

theorem Gateway.stepVisit_of_returned {σ : Type} [SharedStore σ String] {g : Gateway σ}
    {id call : Nat} {v : Visit} {c : CacheCall Job} {answer : Except GatewayError QueryResult}
    (hv : g.visits[id]? = some v) (fetching : v.stage = .fetching call)
    (hc : g.cache.calls[call]? = some c) (returned : c.stage = .returned answer)
    (failing : List StoreOperation) :
    g.stepVisit failing id = g.finish id (answer.map .result) := by
  simp only [stepVisit, hv, fetching, hc, Option.bind_some, returned, CallStage.result?]

theorem Gateway.expireJob_of_late {σ : Type} [SharedStore σ String] {g : Gateway σ}
    {runner : Runner} {d : Dispatch} {again : Bool} (hd : g.dispatch? runner = some d)
    (calling : d.stage = .calling again) (late : d.deadline ≤ g.now.clock) :
    g.expireJob runner =
      { g with cache := g.cache.complete runner (.error (.timeout d.timeout)) }.dropDispatches := by
  simp only [expireJob, hd, Dispatch.expire, calling, if_pos late, settle, Dispatch.result?]

namespace TimeoutSample

open IsolationSample (analyst)
open SourceSample (catalog dataset engines exists_plan)

def gateway : Gateway (MemoryStore String) :=
  .start { queryTimeout := .ofSeconds 1 } engines (catalog "warehouse" 1) 1 ⟨.zero, 0⟩ {}

/-- The analyst asks, and asks again while the first query is still to be planned, -/
def asking : List GatewayEvent :=
  [.visit 0 analyst (.query (ordersRequest [])), .stepVisit 0 [], .tick ⟨.ofMilliseconds 600, 0⟩,
    .visit 0 analyst (.query (ordersRequest [])), .stepVisit 1 []]

/-- the first query starts a flight, -/
def sending : List GatewayEvent :=
  [.stepVisit 0 [], .stepCall 0 [], .stepCall 0 [], .stepFlight 0 [], .stepFlight 0 [],
    .startJob (.flight 0)]

/-- the second one joins it, -/
def joining : List GatewayEvent := [.stepVisit 1 [], .stepCall 1 [], .stepCall 1 []]

/-- the source does not answer in time for the first one, -/
def waiting : List GatewayEvent :=
  [.tick ⟨.ofSeconds 1, 0⟩, .expireJob (.flight 0), .stepFlight 0 []]

/-- and the second one is told so. -/
def returning : List GatewayEvent := [.stepCall 1 [], .stepCall 1 [], .stepVisit 1 []]

def events : List GatewayEvent := asking ++ sending ++ joining ++ waiting ++ returning

/-! ### states of the run -/

section States

variable (key : CacheKey) (text : String)

/-- When the second query comes. -/
def second : Instant := .ofMilliseconds 600

def due : Instant := second.add ({} : LeaseSettings).renewal

def deadline (came : Instant) : Instant := came.add (.ofSeconds 1)

def call (came : Instant) (stage : CallStage) : CacheCall Job where
  process := 0
  key
  ttl := .ofSeconds 300
  deadline := deadline came
  job := ⟨"warehouse", ⟨text, .postgresql⟩, deadline came⟩
  started := second
  stage

def flight (stage : FlightStage) : Flight Job :=
  { (call key text .zero .joining).toCacheRequest with
    owner := toString 0, started := second, stage }

def cluster (now : Instant) (store : MemoryStore String) (process : CacheProcess)
    (calls : List (CacheCall Job)) (flights : List (Flight Job)) :
    CacheCluster (MemoryStore String) Job where
  now := ⟨now, 0⟩
  settings := {}
  store
  processes := [process]
  calls
  flights

/-- The first query waits for its flight. -/
def aboard (now : Instant) (store : MemoryStore String) (stats : CacheStats)
    (later : List (CacheCall Job)) (stage : FlightStage) :
    CacheCluster (MemoryStore String) Job :=
  cluster now store ⟨stats, .ofList [(key.text, 0)]⟩ (call key text .zero (.flying 0) :: later)
    [flight key text stage]

def asked (came : Instant) (stage : VisitStage) : Visit :=
  ⟨0, analyst, .query (ordersRequest []), came, stage⟩

def state (cache : CacheCluster (MemoryStore String) Job) (dispatches : List (Runner × Dispatch))
    (stage stage' : VisitStage) : Gateway (MemoryStore String) where
  settings := { queryTimeout := .ofSeconds 1 }
  engines
  catalog := catalog "warehouse" 1
  cache
  dispatches
  visits := [asked .zero stage, asked second stage']

def sent : Dispatch := ⟨"warehouse", text, (deadline .zero).sub second, second, .calling false⟩

/-- Both queries wait for the flight of the first one. -/
def both (now : Instant) (store : MemoryStore String) (dispatches : List (Runner × Dispatch))
    (stage : FlightStage) : Gateway (MemoryStore String) :=
  state (aboard key text now store { executions := 1, coalesced := 1 }
    [call key text second (.flying 0)] stage) dispatches (.fetching 0) (.fetching 1)

def entered : MemoryStore String := (gateway.run asking).cache.store

def claimed (store : MemoryStore String) : Bool × MemoryStore String :=
  SharedStore.claim ⟨second, 0⟩ key.lease (toString 0) (.ofSeconds 10) store

end States

section Run

variable {key : CacheKey} {text : String} {query : Sql.Query}

theorem claimed_entered (own : CacheKey.Owns key.text) :
    SharedStore.get ⟨second, 0⟩ key.entry entered = none ∧ (claimed key entered).1 = true ∧
      SharedStore.get ⟨second, 0⟩ key.entry (claimed key entered).2 = none :=
  CacheCluster.claim_of_unwritten
    (fun _ => SourceSample.record?_of_bucket analyst (by decide +kernel)) own _ _ _

/-! ### the run -/

set_option maxRecDepth 4000 in
theorem run_asking : gateway.run asking =
    state (cluster second entered {} [] []) [] .preparing .preparing := by rfl

theorem arrive_cluster (came : Instant) (store : MemoryStore String) (process : CacheProcess)
    (calls : List (CacheCall Job)) (flights : List (Flight Job)) :
    (cluster second store process calls flights).arrive
      (call key text came .looking).toCacheRequest =
        cluster second store process (calls ++ [call key text came .looking]) flights := by
  have cached : Duration.ofSeconds 300 ≠ .zero := by decide
  exact congrArg (fun stage =>
    cluster second store process (calls ++ [call key text came stage]) flights) (if_neg cached)

theorem start_sent :
    Dispatch.start engines "warehouse" ⟨text, .postgresql⟩ ((deadline .zero).sub second) second =
      sent text := by
  have engine : engines.get? "warehouse" = some .postgresql := by decide
  have early : ¬Duration.add second ((deadline .zero).sub second) ≤ second := by decide
  simp only [Dispatch.start, engine]
  rw [if_neg (by decide)]
  exact if_neg early

theorem stepCache_state (cache : CacheCluster (MemoryStore String) Job)
    (dispatches : List (Runner × Dispatch)) (stage stage' : VisitStage) (event : CacheEvent Job) :
    (state cache dispatches stage stage').stepCache event =
      state (cache.step event) dispatches stage stage' := rfl

theorem startJob_aboard (store : MemoryStore String) (stage stage' : VisitStage) :
    (state (aboard key text second store { executions := 1 } [] (.running (some due))) [] stage
      stage').startJob (.flight 0) =
    state (aboard key text second store { executions := 1 } [] (.running (some due)))
      [(.flight 0, sent text)] stage stage' := by
  let g := state (aboard key text second store { executions := 1 } [] (.running (some due))) []
    stage stage'
  have idle : g.dispatch? (.flight 0) = none := rfl
  have job : g.cache.job? (.flight 0) =
      some ⟨"warehouse", ⟨text, .postgresql⟩, deadline .zero⟩ := rfl
  have settled : g.settle (.flight 0) (sent text) =
      { g with dispatches := [(.flight 0, sent text)] } := rfl
  change g.startJob (.flight 0) = _
  simp only [Gateway.startJob, idle, job]
  exact (congrArg (g.settle (.flight 0)) start_sent).trans settled

variable (plan : ∀ source, (dataset source).plan {} analyst (ordersRequest []) =
    .ok ⟨query, ⟨text, .postgresql⟩, key⟩) {store : MemoryStore String}

include plan in
theorem plan_state (cache : CacheCluster (MemoryStore String) Job)
    (dispatches : List (Runner × Dispatch)) (stage stage' : VisitStage) :
    (state cache dispatches stage stage').plan analyst (ordersRequest []) =
      .ok (dataset "warehouse", ⟨query, ⟨text, .postgresql⟩, key⟩) :=
  Gateway.plan_eq_ok.2 ⟨rfl, plan "warehouse"⟩

include plan in
theorem run_sending (absent : SharedStore.get ⟨second, 0⟩ key.entry store = none)
    (won : (claimed key store).1 = true)
    (still : SharedStore.get ⟨second, 0⟩ key.entry (claimed key store).2 = none) :
    (state (cluster second store {} [] []) [] .preparing .preparing).run sending =
      state (aboard key text second (claimed key store).2 { executions := 1 } []
        (.running (some due))) [(.flight 0, sent text)] (.fetching 0) .preparing := by
  let c (stage : CallStage) := cluster second store {} [call key text .zero stage] []
  have arrives : (state (cluster second store {} [] []) [] .preparing .preparing).stepVisit [] 0 =
      state (c .looking) [] (.fetching 0) .preparing := by
    rw [Gateway.stepVisit_of_plan [] rfl rfl rfl (plan_state plan ..)]
    exact congrArg (fun c => state c [] (.fetching 0) .preparing) (arrive_cluster ..)
  have looks : (c .looking).stepCall [] 0 = c .joining :=
    CacheCluster.stepCall_of_absent (c := call key text .zero .looking) rfl rfl absent
  have joins : (c .joining).stepCall [] 0 = aboard key text second store {} [] .claiming := rfl
  have wins : (aboard key text second store {} [] .claiming).stepFlight [] 0 =
      aboard key text second (claimed key store).2 {} [] .rechecking :=
    CacheCluster.stepFlight_of_claim (f := flight key text .claiming) rfl rfl won
  have starts : (aboard key text second (claimed key store).2 {} [] .rechecking).stepFlight [] 0 =
      aboard key text second (claimed key store).2 { executions := 1 } [] (.running (some due)) :=
    CacheCluster.stepFlight_of_absent (f := flight key text .rechecking) rfl rfl still
  simp only [Gateway.run, sending, List.foldl_cons, List.foldl_nil, Gateway.step, arrives,
    stepCache_state, CacheCluster.step, looks, joins, wins, starts]
  exact startJob_aboard ..

include plan in
theorem run_joining (absent : SharedStore.get ⟨second, 0⟩ key.entry store = none) :
    (state (aboard key text second store { executions := 1 } [] (.running (some due)))
      [(.flight 0, sent text)] (.fetching 0) .preparing).run joining =
    both key text second store [(.flight 0, sent text)] (.running (some due)) := by
  let c (stats : CacheStats) (stage : CallStage) := aboard key text second store stats
    [call key text second stage] (.running (some due))
  have arrives : (state (aboard key text second store { executions := 1 } [] (.running (some due)))
      [(.flight 0, sent text)] (.fetching 0) .preparing).stepVisit [] 1 =
      state (c { executions := 1 } .looking) [(.flight 0, sent text)] (.fetching 0)
        (.fetching 1) := by
    rw [Gateway.stepVisit_of_plan [] rfl rfl rfl (plan_state plan ..)]
    exact congrArg (fun c => state c [(.flight 0, sent text)] (.fetching 0) (.fetching 1))
      (arrive_cluster ..)
  have looks : (c { executions := 1 } .looking).stepCall [] 1 = c { executions := 1 } .joining :=
    CacheCluster.stepCall_of_absent (c := call key text second .looking) rfl rfl absent
  have joins : (c { executions := 1 } .joining).stepCall [] 1 =
      c { executions := 1, coalesced := 1 } (.flying 0) := by
    have known : (c { executions := 1 } .joining).flightOf? 0 key = some 0 := by
      have table : (SortedMap.ofList [(key.text, 0)]).get? key.text = some 0 :=
        SortedMap.get?_insert_self .empty key.text 0
      exact congrArg (fun flight => flight.bind fun flight => do
        guard ((c { executions := 1 } .joining).isKeptUp flight)
        return flight) table
    exact CacheCluster.stepCall_of_joining [] (c := call key text second .joining) rfl rfl known
  simp only [Gateway.run, joining, List.foldl_cons, List.foldl_nil, Gateway.step, arrives,
    stepCache_state, CacheCluster.step, looks, joins]
  rfl

theorem expireJob_both (key : CacheKey) (text : String) (store : MemoryStore String) :
    (both key text (.ofSeconds 1) store [(.flight 0, sent text)] (.running (some due))).expireJob
      (.flight 0) =
    both key text (.ofSeconds 1) store [] (.releasing (.error (.timeout (sent text).timeout))) := by
  have late : second.add ((deadline .zero).sub second) ≤ .ofSeconds 1 := by decide
  have dropped : (both key text (.ofSeconds 1) store [(.flight 0, sent text)]
      (.releasing (.error (.timeout (sent text).timeout)))).dropDispatches =
    both key text (.ofSeconds 1) store []
      (.releasing (.error (.timeout (sent text).timeout))) := rfl
  have expires : (both key text (.ofSeconds 1) store [(.flight 0, sent text)]
      (.running (some due))).expireJob (.flight 0) =
      (both key text (.ofSeconds 1) store [(.flight 0, sent text)]
      (.releasing (.error (.timeout (sent text).timeout)))).dropDispatches :=
    Gateway.expireJob_of_late (d := sent text) rfl rfl late
  exact expires.trans dropped

theorem run_waiting (key : CacheKey) (text : String) (store : MemoryStore String) :
    ∃ store', (both key text second store [(.flight 0, sent text)] (.running (some due))).run
      waiting = both key text (.ofSeconds 1) store' []
        (.landed (.error (.timeout (sent text).timeout))) := by
  change ∃ store', ((both key text (.ofSeconds 1) store [(.flight 0, sent text)]
    (.running (some due))).expireJob (.flight 0)).stepCache (.stepFlight 0 []) = _
  rw [expireJob_both]
  exact ⟨_, rfl⟩

theorem run_returning (key : CacheKey) (text : String) (store : MemoryStore String)
    (e : GatewayError) :
    let g := (both key text (.ofSeconds 1) store [] (.landed (.error e))).run returning
    g.visits[1]? = some (asked second (.done (.error e))) ∧ g.now.clock = .ofSeconds 1 := by
  let g := both key text (.ofSeconds 1) store [] (.landed (.error e))
  have lands : g.cache.stepCall [] 1 = g.cache.setCall 1 (.leaving 0 (.error e)) :=
    CacheCluster.stepCall_of_flying [] (c := call key text second (.flying 0))
      (f := flight key text (.landed (.error e))) rfl rfl rfl rfl
  let t := (g.stepCache (.stepCall 1 [])).stepCache (.stepCall 1 [])
  have returns : t.cache.calls[1]? = some (call key text second (.returned (.error e))) := by
    change ((g.cache.stepCall [] 1).stepCall [] 1).calls[1]? = _
    rw [lands]
    exact CacheCluster.stepCall_of_leaving [] (c := call key text second (.leaving 0 (.error e)))
      rfl rfl
  have told : t.stepVisit [] 1 = t.finish 1 (.error e) := by
    have hv : t.visits[1]? = some (asked second (.fetching 1)) := rfl
    exact Gateway.stepVisit_of_returned hv rfl returns rfl []
  have still : t.cache.now = g.cache.now := by
    change ((g.cache.step (.stepCall 1 [])).step (.stepCall 1 [])).now = _
    rw [CacheCluster.step_now, CacheCluster.step_now]
  change (t.stepVisit [] 1).visits[1]? = _ ∧ (t.stepVisit [] 1).now.clock = _
  rw [told]
  exact ⟨rfl, congrArg (·.clock) still⟩

end Run

theorem early : ¬second.add (.ofSeconds 1) ≤ .ofSeconds 1 := by decide

/-- The second query is told of the deadline of the first one, before its own. -/
theorem exists_run : gateway.GoesForward events ∧ (gateway.run events).now.clock = .ofSeconds 1 ∧
    ∃ after, (gateway.run events).visits[1]? =
      some (asked second (.done (.error (.timeout after)))) := by
  obtain ⟨query, text, key, -, plan⟩ := exists_plan
  obtain ⟨_, -, -, -, made⟩ := plan_eq_ok.1 (plan "warehouse")
  obtain ⟨absent, won, still⟩ := claimed_entered (CacheKey.owns_of_ofQuery made)
  have sends := run_sending plan absent won still
  rw [← run_asking, ← Gateway.run_append] at sends
  have joins := run_joining plan still
  rw [← sends, ← Gateway.run_append] at joins
  obtain ⟨store, waits⟩ := run_waiting key text (claimed key entered).2
  rw [← joins, ← Gateway.run_append] at waits
  obtain ⟨told, now⟩ := run_returning key text store (.timeout (sent text).timeout)
  rw [← waits, ← Gateway.run_append] at told now
  refine ⟨fun before m known => ?_, now, _, told⟩
  obtain ⟨same, short, place⟩ := place_of_concat known
  change before.length < 20 at short
  generalize before.length = n at same short place
  interval_cases n
  all_goals cases place
  · have entering : (gateway.run (events.take 2)).now.clock = .zero := by rfl
    rw [same, entering]
    exact Nat.zero_le _
  · have waiting : (gateway.run (events.take 14)).now.clock = second :=
      congrArg (·.now.clock) joins
    rw [same, waiting]
    decide

end TimeoutSample

open TimeoutSample in
theorem timed_out_late_joined : gateway.GoesForward events ∧
    ∃ v after, (gateway.run events).visits[1]? = some v ∧
      v.stage = .done (.error (.timeout after)) ∧
      ∃ came, gateway.Joins events 1 came ∧
        came.add gateway.settings.queryTimeout ≤ (gateway.run events).now.clock := by
  obtain ⟨forward, now, after, told⟩ := exists_run
  refine ⟨forward, _, after, told, rfl, ?_⟩
  rcases timed_out_late { queryTimeout := .ofSeconds 1 } SourceSample.engines
    (SourceSample.catalog "warehouse" 1) 1 ⟨.zero, 0⟩ {} events gateway rfl forward 1 _ _ after told
    rfl rfl with own | joined
  · rw [now] at own
    exact absurd own early
  · exact joined

open TimeoutSample in
/-- A query that joins the flight of another one may be timed out before its own time is over. -/
theorem timed_out_early : gateway.GoesForward events ∧
    ∃ v request after, (gateway.run events).visits[1]? = some v ∧ v.action = .query request ∧
      v.stage = .done (.error (.timeout after)) ∧
      ¬v.started.add gateway.settings.queryTimeout ≤ (gateway.run events).now.clock := by
  obtain ⟨forward, now, after, told⟩ := exists_run
  refine ⟨forward, _, _, after, told, rfl, rfl, ?_⟩
  rw [now]
  exact early

end AnalyticsGateway
