import AnalyticsGateway.Proofs.Cache.Runner
import Mathlib.Data.Option.Basic

/-!
# What calls and flights go by

What is published for a key and what is served for it, rows or an error, may have to meet conditions
(`CacheFacts`). If they are met by what jobs return, by what is found in the store and by a flight
that gives up, they are met by whatever calls and flights have in hand (`Founded`): a call that
keeps up a flight asks for the key that the flight serves, and tables name flights by their keys.
-/

namespace AnalyticsGateway

variable {σ ω : Type}

/-! ## conditions -/

/-- What holds of the requests of calls, of the entries that are published for a request, of what a
flight for a request lands with, and of what is served for a key. -/
structure CacheFacts (ω : Type) where
  Asked : CacheRequest ω → Prop
  Publishes : CacheRequest ω → CacheEntry → Prop
  Lands : CacheRequest ω → FlightResult → Prop
  Serves : CacheKey → FlightResult → Prop
  lands : ∀ {request entry}, Publishes request entry → Lands request (.ok ⟨entry.rows, false⟩)
  serves : ∀ {request result}, Lands request result → Serves request.key result

namespace CacheFacts

/-- No less holds. -/
structure Le (h h' : CacheFacts ω) : Prop where
  asked : ∀ {request}, h.Asked request → h'.Asked request
  publishes : ∀ {request entry}, h.Publishes request entry → h'.Publishes request entry
  lands : ∀ {request result}, h.Lands request result → h'.Lands request result
  serves : ∀ {key result}, h.Serves key result → h'.Serves key result

end CacheFacts

section Stages

variable (h : CacheFacts ω)

def FlightStage.IsFounded (request : CacheRequest ω) : FlightStage → Prop
  | publishing entry => h.Publishes request entry
  | releasing result | landed result => h.Lands request result
  | _ => True

def CallStage.IsFounded (key : CacheKey) : CallStage → Prop
  | leaving _ result => h.Serves key result
  | returned result => h.Serves key (result.map fun answer => ⟨answer.rows, answer.cacheHit⟩)
  | _ => True

end Stages

section Stages

variable {h h' : CacheFacts ω}

theorem FlightStage.IsFounded.mono {request : CacheRequest ω} {stage : FlightStage} (le : h.Le h')
    (founded : stage.IsFounded h request) : stage.IsFounded h' request := by
  cases stage with
  | publishing entry => exact le.publishes founded
  | releasing result | landed result => exact le.lands founded
  | _ => trivial

theorem CallStage.IsFounded.mono {key : CacheKey} {stage : CallStage} (le : h.Le h')
    (founded : stage.IsFounded h key) : stage.IsFounded h' key := by
  cases stage with
  | leaving flight result | returned result => exact le.serves founded
  | _ => trivial

/-- An answer is founded as the result is that it is made of. -/
theorem CacheCall.isFounded_answer (c : CacheCall ω) (now : Instant) {result : FlightResult}
    (founded : h.Serves c.key result) :
    (CallStage.returned (c.answer now result)).IsFounded h c.key := by
  cases result with
  | error e => exact founded
  | ok served => exact founded

end Stages

/-! ## tables -/

namespace CacheCluster

/-- The flights by key of a process. -/
def table? (s : CacheCluster σ ω) (process : Nat) : Option (SortedMap Nat) :=
  s.processes[process]?.map CacheProcess.inFlight

theorem table?_of_bare_eq {s t : CacheCluster σ ω} (h : s.bare = t.bare) (process : Nat) :
    s.table? process = t.table? process := by
  have table (s : CacheCluster σ ω) :
      s.table? process = s.bare.processes[process]?.map CacheProcess.inFlight := by
    rw [bare, List.getElem?_map, Option.map_map]
    rfl
  rw [table, table, h]

theorem table?_setInFlight (s : CacheCluster σ ω) (process i : Nat)
    (change : SortedMap Nat → SortedMap Nat) :
    (s.setInFlight process change).table? i =
      if process = i then (s.table? i).map change else s.table? i := by
  rw [table?, setInFlight, List.getElem?_modify, table?]
  cases s.processes[i]? with
  | none => split <;> rfl
  | some p => by_cases same : process = i <;> simp [same]

theorem of_flightOf? {s : CacheCluster σ ω} {process : Nat} {key : CacheKey} {flight : Nat}
    (h : s.flightOf? process key = some flight) :
    ∃ table, s.table? process = some table ∧ table.get? key.text = some flight := by
  unfold flightOf? at h
  obtain ⟨p, hp, h⟩ := Option.bind_eq_some_iff.1 h
  obtain ⟨other, hother, h⟩ := Option.bind_eq_some_iff.1 h
  obtain ⟨-, -, h⟩ := Option.bind_eq_some_iff.1 h
  cases h
  exact ⟨p.inFlight, by rw [table?, hp, Option.map_some], hother⟩

/-- The request that a flight serves stays. -/
theorem getElem?_setFlight {s : CacheCluster σ ω} {i : Nat} {f : Flight ω}
    (h : s.flights[i]? = some f) (id : Nat) (stage : FlightStage) :
    ∃ g, (s.setFlight id stage).flights[i]? = some g ∧ g.toCacheRequest = f.toCacheRequest := by
  have same := map_getElem?_modify Flight.toCacheRequest (fun flight => { flight with stage })
    (fun _ => rfl) s.flights id i
  rw [h] at same
  exact Option.map_eq_some_iff.1 same

theorem job?_of_call {s : CacheCluster σ ω} {id : Nat} {c : CacheCall ω}
    (h : s.calls[id]? = some c) (runs : c.stage.isRunning = true) :
    s.job? (.call id) = some c.job := by
  simp [job?, h, runs]

theorem job?_of_flight {s : CacheCluster σ ω} {id : Nat} {f : Flight ω}
    (h : s.flights[id]? = some f) (runs : f.stage.isRunning = true) :
    s.job? (.flight id) = some f.job := by
  simp [job?, h, runs]

end CacheCluster

/-! ## the invariant -/

structure Founded (h : CacheFacts ω) (s : CacheCluster σ ω) : Prop where
  calls : ∀ {id : Nat} {c : CacheCall ω}, s.calls[id]? = some c →
    h.Asked c.toCacheRequest ∧ c.stage.IsFounded h c.key
  flights : ∀ {id : Nat} {f : Flight ω}, s.flights[id]? = some f →
    h.Asked f.toCacheRequest ∧ f.stage.IsFounded h f.toCacheRequest
  /-- Calls are with flights of their keys. -/
  boarded : ∀ {id flight : Nat} {c : CacheCall ω}, s.calls[id]? = some c →
    c.stage.flight? = some flight → ∃ f, s.flights[flight]? = some f ∧ f.key = c.key
  tables : ∀ {process flight : Nat} {table : SortedMap Nat} {text : String},
    s.table? process = some table → table.get? text = some flight →
      ∃ f, s.flights[flight]? = some f ∧ f.key.text = text

namespace Founded

variable {h h' : CacheFacts ω} {s t : CacheCluster σ ω}

theorem mono (inv : Founded h s) (le : h.Le h') : Founded h' s where
  calls hc := ⟨le.asked (inv.calls hc).1, (inv.calls hc).2.mono le⟩
  flights hf := ⟨le.asked (inv.flights hf).1, (inv.flights hf).2.mono le⟩
  boarded := inv.boarded
  tables := inv.tables

theorem fresh (settings : LeaseSettings) (processes : Nat) (now : Moment) (store : σ) :
    Founded h (.fresh settings processes now store) where
  calls := nofun
  flights := nofun
  boarded := nofun
  tables htable hflight := by
    rw [CacheCluster.table?, CacheCluster.fresh, List.getElem?_replicate] at htable
    split at htable
    · cases htable
      cases hflight
    · cases htable

/-- What neither calls nor flights nor tables depend on may change. -/
theorem of_eq (inv : Founded h s) (calls : t.calls = s.calls) (flights : t.flights = s.flights)
    (tables : ∀ process, t.table? process = s.table? process) : Founded h t where
  calls hc := inv.calls (calls ▸ hc)
  flights hf := inv.flights (flights ▸ hf)
  boarded hc := by
    rw [calls] at hc
    rw [flights]
    exact inv.boarded hc
  tables htable := by
    rw [tables] at htable
    rw [flights]
    exact inv.tables htable

theorem of_bare_eq (inv : Founded h s) (eq : t.bare = s.bare) : Founded h t := by
  obtain ⟨-, -, -, calls, flights, -⟩ := CacheCluster.of_bare_eq eq
  exact inv.of_eq calls flights (CacheCluster.table?_of_bare_eq eq)

theorem withStore (inv : Founded h s) (store : σ) : Founded h { s with store } :=
  inv.of_eq rfl rfl fun _ => rfl

theorem asked_request (inv : Founded h s) {runner : Runner} {r : CacheRequest ω}
    (hr : s.request? runner = some r) : h.Asked r := by
  cases runner with
  | call id =>
    obtain ⟨c, hc, rfl⟩ := Option.map_eq_some_iff.1 hr
    exact (inv.calls hc).1
  | flight id =>
    obtain ⟨f, hf, rfl⟩ := Option.map_eq_some_iff.1 hr
    exact (inv.flights hf).1

/-- What a call returns for its request. -/
theorem serves_result (inv : Founded h s) {call : Nat} {r : CacheRequest ω}
    (hr : s.request? (.call call) = some r) {answer : Except GatewayError QueryResult}
    (result : (s.calls[call]?.bind fun c => c.stage.result?) = some answer) :
    h.Serves r.key (answer.map fun answer => ⟨answer.rows, answer.cacheHit⟩) := by
  obtain ⟨c, hc, rfl⟩ := Option.map_eq_some_iff.1 hr
  rw [hc, Option.bind_some, CallStage.result?_eq_some] at result
  have founded := (inv.calls hc).2
  rwa [result] at founded

/-! ## changes of a part -/

theorem setCall (inv : Founded h s) {id : Nat} {c : CacheCall ω} {stage : CallStage}
    (hc : s.calls[id]? = some c) (founded : stage.IsFounded h c.key)
    (boarded : ∀ flight, stage.flight? = some flight →
      ∃ f, s.flights[flight]? = some f ∧ f.key = c.key) : Founded h (s.setCall id stage) where
  calls hd := by
    rcases CacheCluster.of_setCall hd with ⟨-, hd⟩ | ⟨rfl, old, hold, rfl⟩
    · exact inv.calls hd
    · cases hc.symm.trans hold
      exact ⟨(inv.calls hc).1, founded⟩
  flights := inv.flights
  boarded hd flight := by
    rcases CacheCluster.of_setCall hd with ⟨-, hd⟩ | ⟨rfl, old, hold, rfl⟩
    · exact inv.boarded hd flight
    · cases hc.symm.trans hold
      exact boarded _ flight
  tables := inv.tables

/-- A call that keeps up no flight. -/
theorem setLoneCall (inv : Founded h s) {id : Nat} {c : CacheCall ω} {stage : CallStage}
    (hc : s.calls[id]? = some c) (founded : stage.IsFounded h c.key)
    (lone : stage.flight? = none) : Founded h (s.setCall id stage) := by
  refine inv.setCall hc founded fun flight aboard => ?_
  rw [lone] at aboard
  cases aboard

theorem setFlight (inv : Founded h s) {id : Nat} {f : Flight ω} {stage : FlightStage}
    (hf : s.flights[id]? = some f) (founded : stage.IsFounded h f.toCacheRequest) :
    Founded h (s.setFlight id stage) where
  calls := inv.calls
  flights hg := by
    rcases CacheCluster.of_setFlight hg with ⟨-, hg⟩ | ⟨rfl, old, hold, rfl⟩
    · exact inv.flights hg
    · cases hf.symm.trans hold
      exact ⟨(inv.flights hf).1, founded⟩
  boarded hc flight := by
    obtain ⟨g, hg, key⟩ := inv.boarded hc flight
    obtain ⟨g', hg', same⟩ := CacheCluster.getElem?_setFlight hg id stage
    exact ⟨g', hg', (congrArg CacheRequest.key same).trans key⟩
  tables htable hflight := by
    obtain ⟨g, hg, text⟩ := inv.tables htable hflight
    obtain ⟨g', hg', same⟩ := CacheCluster.getElem?_setFlight hg id stage
    exact ⟨g', hg', (congrArg (·.key.text) same).trans text⟩

/-- A flight of a key may be put into the table under the key. -/
theorem setInFlight (inv : Founded h s) (process : Nat) {change : SortedMap Nat → SortedMap Nat}
    (changed : ∀ {table text flight}, (change table).get? text = some flight →
      table.get? text = some flight ∨ ∃ f, s.flights[flight]? = some f ∧ f.key.text = text) :
    Founded h (s.setInFlight process change) where
  calls := inv.calls
  flights := inv.flights
  boarded := inv.boarded
  tables htable hflight := by
    rw [CacheCluster.table?_setInFlight] at htable
    split at htable
    · obtain ⟨old, hold, rfl⟩ := Option.map_eq_some_iff.1 htable
      rcases changed hflight with hflight | known
      · exact inv.tables hold hflight
      · exact known
    · exact inv.tables htable hflight

theorem start (inv : Founded h s) {c : CacheCall ω} (asked : h.Asked c.toCacheRequest) :
    Founded h { s with flights := s.flights ++ [s.newFlight c] } where
  calls := inv.calls
  flights hf := by
    rcases of_concat hf with hf | ⟨-, rfl⟩
    · exact inv.flights hf
    · exact ⟨asked, trivial⟩
  boarded hc aboard := by
    obtain ⟨f, hf, key⟩ := inv.boarded hc aboard
    exact ⟨f, getElem?_concat_of_some hf _, key⟩
  tables htable hflight := by
    obtain ⟨f, hf, text⟩ := inv.tables htable hflight
    exact ⟨f, getElem?_concat_of_some hf _, text⟩

/-- A new flight is the last one, and is put into the table under its key. -/
theorem launch (inv : Founded h s) {id : Nat} {c : CacheCall ω} (hc : s.calls[id]? = some c) :
    Founded h ((({ s with flights := s.flights ++ [s.newFlight c] }).setInFlight c.process
      fun table => table.insert c.key.text s.flights.length).setCall id
        (.flying s.flights.length)) := by
  have last := getElem?_concat_length s.flights (s.newFlight c)
  refine Founded.setCall ((inv.start (inv.calls hc).1).setInFlight _ fun hflight => ?_) hc
    trivial fun flight eq => ?_
  · rw [SortedMap.get?_insert] at hflight
    split at hflight
    · rename_i text
      cases hflight
      exact .inr ⟨_, last, text⟩
    · exact .inl hflight
  · cases eq
    exact ⟨_, last, rfl⟩

theorem forget (inv : Founded h s) (c : CacheCall ω) (flight : Nat) :
    Founded h (s.forget c flight) := by
  rcases s.forget_cases c flight with eq | eq <;> rw [eq]
  · exact inv
  · refine inv.setInFlight _ fun hflight => ?_
    rw [SortedMap.get?_erase] at hflight
    split at hflight
    · cases hflight
    · exact .inl hflight

/-! ## steps -/

theorem arrive (inv : Founded h s) {request : CacheRequest ω} (asked : h.Asked request) :
    Founded h (s.arrive request) where
  calls hc := by
    rcases of_concat hc with hc | ⟨-, rfl⟩
    · exact inv.calls hc
    · refine ⟨asked, ?_⟩
      simp only
      split <;> trivial
  flights := inv.flights
  boarded hc aboard := by
    rcases of_concat hc with hc | ⟨-, rfl⟩
    · exact inv.boarded hc aboard
    · simp only at aboard
      split at aboard <;> cases aboard
  tables := inv.tables

/-- A runner ends with a result that a flight may land with, and rows that may be published. -/
theorem complete (inv : Founded h s) {runner : Runner} {result : Except GatewayError RowSet}
    (ran : ∀ r job, s.request? runner = some r → s.job? runner = some job →
      h.Lands r (result.map fun rows => ⟨rows, false⟩) ∧
        ∀ rows, result = .ok rows → h.Publishes r (.new rows r.ttl s.now.time.nanoseconds)) :
    Founded h (s.complete runner result) := by
  have move := s.complete_move runner result
  generalize s.complete runner result = t at move
  cases move with
  | @answered id c hc runs =>
    have hjob := CacheCluster.job?_of_call hc (by rw [runs]; rfl)
    have lands := (ran _ _ (CacheCluster.request?_of_call hc) hjob).1
    exact inv.setLoneCall hc (c.isFounded_answer _ (h.serves lands)) rfl
  | @succeeded id f _ rows hf runs eq =>
    have hjob := CacheCluster.job?_of_flight hf (by rw [runs]; rfl)
    exact inv.setFlight hf ((ran _ _ (CacheCluster.request?_of_flight hf) hjob).2 rows eq)
  | @failed id f _ e hf runs eq =>
    have hjob := CacheCluster.job?_of_flight hf (by rw [runs]; rfl)
    have lands := (ran _ _ (CacheCluster.request?_of_flight hf) hjob).1
    rw [eq] at lands
    exact inv.setFlight hf lands
  | @landed id f hf runs =>
    have hjob := CacheCluster.job?_of_flight hf (by rw [runs]; rfl)
    exact inv.setFlight hf (ran _ _ (CacheCluster.request?_of_flight hf) hjob).1
  | stays => exact inv

theorem desert (inv : Founded h s) (id : Nat) : Founded h (s.desert id) := by
  rcases s.desert_cases id with eq | ⟨f, lease, hf, -, -, eq⟩ <;> rw [eq]
  · exact inv
  · have left : Founded h (s.setFlight id .deserted) := inv.setFlight hf trivial
    exact left.of_eq rfl rfl fun _ => rfl

theorem cancel (inv : Founded h s) (id : Nat) : Founded h (s.cancel id) := by
  cases hc : s.calls[id]? with
  | none => rwa [CacheCluster.cancel, hc]
  | some c =>
    have cancelled : Founded h (s.setCall id .cancelled) := inv.setLoneCall hc trivial rfl
    rcases s.cancel_cases id with eq | eq | ⟨flight, -, eq⟩ <;> rw [eq]
    · exact inv
    · exact cancelled
    · exact cancelled.desert flight

variable [SharedStore σ String]

/-- A flight lands with what it finds or gives up, if it may do so. -/
theorem isFounded_of_move (inv : Founded h s) {failing : List StoreOperation} {id : Nat}
    {f : Flight ω} {stage : FlightStage} {store : σ} (hf : s.flights[id]? = some f)
    (move : s.FlightMove failing f stage store)
    (looks : ∀ rows, f.stage = .rechecking ∨ f.stage = .polling →
      s.look failing f.key = .found rows → h.Lands f.toCacheRequest (.ok ⟨rows, true⟩))
    (waits : s.GivesUp failing f →
      h.Lands f.toCacheRequest (.error (.timeout (s.now.clock.sub f.started)))) :
    stage.IsFounded h f.toCacheRequest := by
  have founded := (inv.flights hf).2
  cases move with
  | refused claims refused stages =>
    rcases stages with ⟨late, rfl⟩ | ⟨till, rfl⟩
    · exact waits ⟨claims, ⟨_, refused⟩, late⟩
    · trivial
  | found rechecks found => exact looks _ (.inl rechecks) found
  | polled polls found => exact looks _ (.inr polls) found
  | published publishes _ | unpublished publishes _ =>
    rw [publishes] at founded
    exact h.lands founded
  | releases releases =>
    rw [releases] at founded
    exact founded
  | stays _ => exact founded
  | _ => trivial

theorem stepFlight (inv : Founded h s) {failing : List StoreOperation} {id : Nat}
    (looks : ∀ f rows, s.flights[id]? = some f → f.stage = .rechecking ∨ f.stage = .polling →
      s.look failing f.key = .found rows → h.Lands f.toCacheRequest (.ok ⟨rows, true⟩))
    (waits : ∀ f, s.flights[id]? = some f → s.GivesUp failing f →
      h.Lands f.toCacheRequest (.error (.timeout (s.now.clock.sub f.started)))) :
    Founded h (s.stepFlight failing id) := by
  cases hf : s.flights[id]? with
  | none => rwa [CacheCluster.stepFlight_of_none hf]
  | some f =>
    obtain ⟨stage, store, move, eq⟩ := CacheCluster.stepFlight_move failing hf
    have founded := inv.isFounded_of_move hf move (fun rows => looks f rows hf) (waits f hf)
    exact Founded.of_bare_eq ((inv.withStore store).setFlight hf founded) eq

/-- A call serves what it finds, if that may be served. -/
theorem stepCall (inv : Founded h s) {failing : List StoreOperation} {id : Nat}
    (looks : ∀ c rows, s.calls[id]? = some c → c.stage = .looking →
      s.look failing c.key = .found rows → h.Serves c.key (.ok ⟨rows, true⟩)) :
    Founded h (s.stepCall failing id) := by
  cases hc : s.calls[id]? with
  | none => rwa [CacheCluster.stepCall_of_none hc]
  | some c =>
    obtain ⟨t, move, eq⟩ := CacheCluster.stepCall_move failing hc
    refine Founded.of_bare_eq ?_ eq
    have founded := (inv.calls hc).2
    cases move with
    | found looking found =>
      exact inv.setLoneCall hc (c.isFounded_answer _ (looks c _ hc looking found)) rfl
    | missed _ => exact inv.setLoneCall hc trivial rfl
    | joined _ known =>
      refine inv.setCall hc trivial fun flight eq => ?_
      cases eq
      obtain ⟨table, htable, hflight⟩ := CacheCluster.of_flightOf? known
      obtain ⟨f, hf, text⟩ := inv.tables htable hflight
      exact ⟨f, hf, congrArg CacheKey.mk text⟩
    | started _ _ => exact inv.launch hc
    | @landed flight f result flies hf lands =>
      have aboard : c.stage.flight? = some flight := by
        rw [flies]
        rfl
      obtain ⟨f', hf', key⟩ := inv.boarded hc aboard
      cases hf.symm.trans hf'
      refine inv.setCall hc ?_ fun flight eq => ?_
      · have arrived := (inv.flights hf).2
        rw [lands] at arrived
        exact key ▸ h.serves arrived
      · cases eq
        exact ⟨f, hf, key⟩
    | left leaves =>
      rw [leaves] at founded
      refine (inv.forget c _).setLoneCall ?_ (c.isFounded_answer _ founded) rfl
      rw [CacheCluster.forget_calls, hc]
    | stays => exact inv

theorem releaseAbandoned (inv : Founded h s) (failing : List StoreOperation) :
    Founded h (s.releaseAbandoned failing) := by
  rcases s.releaseAbandoned_cases failing with eq | ⟨a, rest, -, eq⟩ <;> rw [eq]
  · exact inv
  · exact inv.of_eq rfl rfl fun _ => rfl

end Founded

end AnalyticsGateway
