import AnalyticsGateway.Cache.Step
import AnalyticsGateway.Proofs.Place

/-!
# What a step of the caches can change

A step of a flight puts it at another stage and leaves another store (`FlightMove`); a step of a
call puts it at another stage, and a call that joins may start a flight (`CallMove`). The counters
of the processes are left out of account: states are compared without them (`bare`).
-/

namespace AnalyticsGateway

theorem CallStage.result?_eq_some {stage : CallStage} {answer : Except GatewayError QueryResult} :
    stage.result? = some answer ↔ stage = .returned answer := by
  cases stage <;> simp [result?]

namespace CacheCluster

variable {σ ω : Type}

/-- The caches of some processes before anything has happened. -/
def fresh (settings : LeaseSettings) (processes : Nat) (now : Moment) (store : σ) :
    CacheCluster σ ω where
  now
  settings
  store
  processes := List.replicate processes {}

/-! ## counters -/

/-- The state without its counters. -/
def bare (s : CacheCluster σ ω) : CacheCluster σ ω :=
  { s with processes := s.processes.map fun p => { p with stats := {} } }

@[simp] theorem bare_count (s : CacheCluster σ ω) (process : Nat)
    (change : CacheStats → CacheStats) : (s.count process change).bare = s.bare := by
  have same : (s.processes.modify process fun p => { p with stats := change p.stats }).map
      (fun p => { p with stats := {} }) = s.processes.map fun p => { p with stats := {} } := by
    refine List.ext_getElem? fun i => ?_
    rw [List.getElem?_map, List.getElem?_map]
    exact map_getElem?_modify _ _ (by intro; rfl) ..
  simp only [bare, count, same]

@[simp] theorem bare_countStoreError (s : CacheCluster σ ω) (process : Nat) :
    (s.countStoreError process).bare = s.bare := bare_count ..

@[simp] theorem bare_countExecution (s : CacheCluster σ ω) (process : Nat) :
    (s.countExecution process).bare = s.bare := bare_count ..

@[simp] theorem bare_countExpired (s : CacheCluster σ ω) (process : Nat) (lookup : Lookup) :
    (s.countExpired process lookup).bare = s.bare := by
  unfold countExpired
  split
  · exact bare_count ..
  · rfl

theorem bare_setCall {s t : CacheCluster σ ω} (h : s.bare = t.bare) (id : Nat)
    (stage : CallStage) : (s.setCall id stage).bare = (t.setCall id stage).bare :=
  congrArg (·.setCall id stage) h

theorem bare_setFlight {s t : CacheCluster σ ω} (h : s.bare = t.bare) (id : Nat)
    (stage : FlightStage) : (s.setFlight id stage).bare = (t.setFlight id stage).bare :=
  congrArg (·.setFlight id stage) h

/-- What is no counter, and belongs to no single process, is the same. -/
structure SharesState (s t : CacheCluster σ ω) : Prop where
  now : s.now = t.now
  settings : s.settings = t.settings
  store : s.store = t.store
  calls : s.calls = t.calls
  flights : s.flights = t.flights
  abandoned : s.abandoned = t.abandoned

theorem of_bare_eq {s t : CacheCluster σ ω} (h : s.bare = t.bare) : s.SharesState t := by
  simp only [bare, CacheCluster.mk.injEq] at h
  obtain ⟨hnow, hsettings, hstore, -, hcalls, hflights, habandoned⟩ := h
  exact ⟨hnow, hsettings, hstore, hcalls, hflights, habandoned⟩

@[simp] theorem countExpired_now (s : CacheCluster σ ω) (process : Nat) (lookup : Lookup) :
    (s.countExpired process lookup).now = s.now :=
  (of_bare_eq (s.bare_countExpired process lookup)).now

@[simp] theorem countExpired_settings (s : CacheCluster σ ω) (process : Nat) (lookup : Lookup) :
    (s.countExpired process lookup).settings = s.settings :=
  (of_bare_eq (s.bare_countExpired process lookup)).settings

/-! ## stages -/

theorem setFlight_same {s : CacheCluster σ ω} {id : Nat} {f : Flight ω}
    (h : s.flights[id]? = some f) : s.setFlight id f.stage = s := by
  have same : s.flights.modify id (fun flight => { flight with stage := f.stage }) = s.flights := by
    refine List.ext_getElem? fun i => ?_
    rw [List.getElem?_modify]
    split
    · rename_i hi
      subst hi
      rw [h]
      rfl
    · exact Option.map_id'
  rw [setFlight, same]

theorem of_setFlight {s : CacheCluster σ ω} {id i : Nat} {stage : FlightStage} {f : Flight ω}
    (h : (s.setFlight id stage).flights[i]? = some f) :
    i ≠ id ∧ s.flights[i]? = some f ∨
      i = id ∧ ∃ old, s.flights[i]? = some old ∧ f = { old with stage } :=
  of_modify h

theorem of_setCall {s : CacheCluster σ ω} {id i : Nat} {stage : CallStage} {c : CacheCall ω}
    (h : (s.setCall id stage).calls[i]? = some c) :
    i ≠ id ∧ s.calls[i]? = some c ∨
      i = id ∧ ∃ old, s.calls[i]? = some old ∧ c = { old with stage } :=
  of_modify h

/-! ## flights -/

variable [SharedStore σ String]

/-- What a step of a flight can do: the stage that it goes on to, and the store after it. -/
inductive FlightMove (s : CacheCluster σ ω) (failing : List StoreOperation) (f : Flight ω) :
    FlightStage → σ → Prop
  | claimed {store : σ} : f.stage = .claiming →
    (s.circumstances failing).attempt .claim
      (SharedStore.claim s.now f.key.lease f.owner s.settings.span) s.store = (.ok true, store) →
      FlightMove s failing f .rechecking store
  | refused {stage : FlightStage} {store : σ} : f.stage = .claiming →
    (s.circumstances failing).attempt .claim
      (SharedStore.claim s.now f.key.lease f.owner s.settings.span) s.store = (.ok false, store) →
    (f.deadline ≤ s.now.clock ∧
      stage = .landed (.error (.timeout (s.now.clock.sub f.started)))) ∨
      (∃ till, stage = .waiting till) → FlightMove s failing f stage store
  | unclaimed {e : StoreError} {store : σ} : f.stage = .claiming →
    (s.circumstances failing).attempt .claim
      (SharedStore.claim s.now f.key.lease f.owner s.settings.span) s.store = (.error e, store) →
      FlightMove s failing f (.running none) store
  | found {rows : RowSet} : f.stage = .rechecking → s.look failing f.key = .found rows →
    FlightMove s failing f (.releasing (.ok ⟨rows, true⟩)) s.store
  | starts : f.stage = .rechecking → (∀ rows, s.look failing f.key ≠ .found rows) →
    FlightMove s failing f (.running (some (s.now.clock.add s.settings.renewal))) s.store
  | renews {due : Instant} : f.stage = .running (some due) → due ≤ s.now.clock →
    FlightMove s failing f (.running (some (due.add s.settings.renewal)))
      ((s.circumstances failing).attempt .renew
        (SharedStore.renew s.now f.key.lease f.owner s.settings.span) s.store).2
  | published {entry : CacheEntry} {store : σ} : f.stage = .publishing entry →
    (s.circumstances failing).attempt .publish (fun store => ((), SharedStore.publish s.now
      f.key.entry entry.text f.ttl f.key.lease f.owner store)) s.store = (.ok (), store) →
      FlightMove s failing f (.landed (.ok ⟨entry.rows, false⟩)) store
  | unpublished {entry : CacheEntry} {e : StoreError} {store : σ} : f.stage = .publishing entry →
    (s.circumstances failing).attempt .publish (fun store => ((), SharedStore.publish s.now
      f.key.entry entry.text f.ttl f.key.lease f.owner store)) s.store = (.error e, store) →
      FlightMove s failing f (.releasing (.ok ⟨entry.rows, false⟩)) store
  | releases {result : FlightResult} : f.stage = .releasing result →
    FlightMove s failing f (.landed result)
      ((s.circumstances failing).attempt .release
        (SharedStore.release s.now f.key.lease f.owner) s.store).2
  | awakes {till : Instant} : f.stage = .waiting till → FlightMove s failing f .polling s.store
  | polled {rows : RowSet} : f.stage = .polling → s.look failing f.key = .found rows →
    FlightMove s failing f (.landed (.ok ⟨rows, true⟩)) s.store
  | retries : f.stage = .polling → FlightMove s failing f .claiming s.store
  | stays : f.stage.isReady s.now.clock = false → FlightMove s failing f f.stage s.store

/-- The lease of a flight is another's when it is too late to wait for it. -/
def GivesUp (s : CacheCluster σ ω) (failing : List StoreOperation) (f : Flight ω) : Prop :=
  f.stage = .claiming ∧ (∃ store, (s.circumstances failing).attempt .claim
    (SharedStore.claim s.now f.key.lease f.owner s.settings.span) s.store = (.ok false, store)) ∧
      f.deadline ≤ s.now.clock

theorem claimLease_move (s : CacheCluster σ ω) (failing : List StoreOperation) (id : Nat)
    {f : Flight ω} (h : f.stage = .claiming) :
    ∃ stage store, FlightMove s failing f stage store ∧
      (s.claimLease failing id f).bare = (({ s with store }).setFlight id stage).bare := by
  unfold claimLease useStore
  generalize hr : (s.circumstances failing).attempt .claim
    (SharedStore.claim s.now f.key.lease f.owner s.settings.span) s.store = r
  obtain ⟨answer, store⟩ := r
  simp only
  split
  · exact ⟨_, _, .claimed h hr, rfl⟩
  · split
    · rename_i late
      exact ⟨_, _, .refused h hr (.inl ⟨late, rfl⟩), bare_setFlight (bare_count ..) ..⟩
    · exact ⟨_, _, .refused h hr (.inr ⟨_, rfl⟩), bare_setFlight (bare_count ..) ..⟩
  · refine ⟨_, _, .unclaimed h hr, bare_setFlight ?_ ..⟩
    rw [bare_countExecution, bare_countStoreError]

theorem recheck_move (s : CacheCluster σ ω) (failing : List StoreOperation) (id : Nat)
    {f : Flight ω} (h : f.stage = .rechecking) :
    ∃ stage store, FlightMove s failing f stage store ∧
      (s.recheck failing id f).bare = (({ s with store }).setFlight id stage).bare := by
  unfold recheck
  simp only
  split
  · rename_i rows found
    exact ⟨_, _, .found h found, bare_setFlight (bare_countExpired ..) ..⟩
  · rename_i other
    rw [countExpired_now, countExpired_settings]
    refine ⟨_, _, .starts h other, bare_setFlight ?_ ..⟩
    rw [bare_countExecution, bare_countExpired]

theorem publish_move (s : CacheCluster σ ω) (failing : List StoreOperation) (id : Nat)
    {f : Flight ω} {entry : CacheEntry} (h : f.stage = .publishing entry) :
    ∃ stage store, FlightMove s failing f stage store ∧
      (s.publish failing id f entry).bare = (({ s with store }).setFlight id stage).bare := by
  unfold publish useStore
  generalize hr : (s.circumstances failing).attempt .publish (fun store => ((), SharedStore.publish
    s.now f.key.entry entry.text f.ttl f.key.lease f.owner store)) s.store = r
  obtain ⟨answer, store⟩ := r
  simp only [hr]
  cases answer with
  | ok _ => exact ⟨_, _, .published h hr, rfl⟩
  | error e => exact ⟨_, _, .unpublished h hr, bare_setFlight (bare_countStoreError ..) ..⟩

theorem poll_move (s : CacheCluster σ ω) (failing : List StoreOperation) (id : Nat)
    {f : Flight ω} (h : f.stage = .polling) :
    ∃ stage store, FlightMove s failing f stage store ∧
      (s.poll failing id f).bare = (({ s with store }).setFlight id stage).bare := by
  unfold poll
  simp only
  split
  · rename_i rows found
    exact ⟨_, _, .polled h found, bare_setFlight (bare_countExpired ..) ..⟩
  · exact ⟨_, _, .retries h, bare_setFlight (bare_countExpired ..) ..⟩

theorem stepFlight_of_none {s : CacheCluster σ ω} {failing : List StoreOperation} {id : Nat}
    (h : s.flights[id]? = none) : s.stepFlight failing id = s := by
  rw [stepFlight, h]

theorem stepFlight_move {s : CacheCluster σ ω} (failing : List StoreOperation) {id : Nat}
    {f : Flight ω} (h : s.flights[id]? = some f) :
    ∃ stage store, FlightMove s failing f stage store ∧
      (s.stepFlight failing id).bare = (({ s with store }).setFlight id stage).bare := by
  have stays (idle : f.stage.isReady s.now.clock = false) : ∃ stage store,
      FlightMove s failing f stage store ∧ s.bare = (({ s with store }).setFlight id stage).bare :=
    ⟨f.stage, s.store, .stays idle, congrArg bare (setFlight_same h).symm⟩
  unfold stepFlight
  rw [h]
  cases hs : f.stage with
  | claiming => simpa only [hs] using s.claimLease_move failing id hs
  | rechecking => simpa only [hs] using s.recheck_move failing id hs
  | running renewal =>
    cases renewal with
    | none => simpa only [hs] using stays (hs ▸ rfl)
    | some due =>
      by_cases hdue : due ≤ s.now.clock
      · exact ⟨_, _, .renews hs hdue, by simp only [hs, if_pos hdue]; rfl⟩
      · simpa only [hs, if_neg hdue] using stays (by simp [hs, FlightStage.isReady, hdue])
  | publishing entry => simpa only [hs] using s.publish_move failing id hs
  | releasing result => exact ⟨_, _, .releases hs, by simp only [hs]; rfl⟩
  | waiting till =>
    by_cases hdue : till ≤ s.now.clock
    · exact ⟨_, _, .awakes hs, by simp only [hs, if_pos hdue]⟩
    · simpa only [hs, if_neg hdue] using stays (by simp [hs, FlightStage.isReady, hdue])
  | polling => simpa only [hs] using s.poll_move failing id hs
  | landed result => simpa only [hs] using stays (hs ▸ rfl)
  | deserted => simpa only [hs] using stays (hs ▸ rfl)

theorem stepFlight_calls (s : CacheCluster σ ω) (failing : List StoreOperation) (id : Nat) :
    (s.stepFlight failing id).calls = s.calls := by
  cases hf : s.flights[id]? with
  | none => rw [stepFlight_of_none hf]
  | some f =>
    obtain ⟨stage, store, -, eq⟩ := stepFlight_move failing hf
    exact (of_bare_eq eq).calls

/-! ## calls -/

/-- What a step of a call can do to the state. -/
inductive CallMove (s : CacheCluster σ ω) (failing : List StoreOperation) (id : Nat)
    (c : CacheCall ω) : CacheCluster σ ω → Prop
  | found {rows : RowSet} : c.stage = .looking → s.look failing c.key = .found rows →
    CallMove s failing id c (s.setCall id (.returned (c.answer s.now.clock (.ok ⟨rows, true⟩))))
  | missed : c.stage = .looking → CallMove s failing id c (s.setCall id .joining)
  | joined {flight : Nat} : c.stage = .joining → s.flightOf? c.process c.key = some flight →
    CallMove s failing id c (s.setCall id (.flying flight))
  | started : c.stage = .joining → s.flightOf? c.process c.key = none →
    CallMove s failing id c
      ((({ s with flights := s.flights ++ [s.newFlight c] }).setInFlight c.process
        fun table => table.insert c.key.text s.flights.length).setCall id
          (.flying s.flights.length))
  | landed {flight : Nat} {f : Flight ω} {result : FlightResult} : c.stage = .flying flight →
    s.flights[flight]? = some f → f.stage = .landed result →
    CallMove s failing id c (s.setCall id (.leaving flight result))
  | left {flight : Nat} {result : FlightResult} : c.stage = .leaving flight result →
    CallMove s failing id c
      ((s.forget c flight).setCall id (.returned (c.answer s.now.clock result)))
  | stays : CallMove s failing id c s

theorem lookUp_move (s : CacheCluster σ ω) (failing : List StoreOperation) (id : Nat)
    {c : CacheCall ω} (h : c.stage = .looking) :
    ∃ t, CallMove s failing id c t ∧ (s.lookUp failing id c).bare = t.bare := by
  unfold lookUp
  simp only
  split
  · rename_i rows found
    refine ⟨_, .found h found, ?_⟩
    rw [show ((s.countExpired c.process (s.look failing c.key)).count c.process fun n =>
      { n with hits := n.hits + 1 }).now = s.now from countExpired_now ..]
    refine bare_setCall ?_ ..
    rw [bare_count, bare_countExpired]
  · refine ⟨_, .missed h, bare_setCall ?_ ..⟩
    rw [bare_countStoreError, bare_countExpired]
  · exact ⟨_, .missed h, bare_setCall (bare_countExpired ..) ..⟩

theorem join_move (s : CacheCluster σ ω) (failing : List StoreOperation) (id : Nat)
    {c : CacheCall ω} (h : c.stage = .joining) :
    ∃ t, CallMove s failing id c t ∧ (s.join id c).bare = t.bare := by
  unfold join
  split
  · rename_i flight known
    exact ⟨_, .joined h known, bare_setCall (bare_count ..) ..⟩
  · rename_i unknown
    exact ⟨_, .started h unknown, rfl⟩

omit [SharedStore σ String] in
theorem forget_cases (s : CacheCluster σ ω) (c : CacheCall ω) (flight : Nat) :
    s.forget c flight = s ∨
      s.forget c flight = s.setInFlight c.process fun table => table.erase c.key.text := by
  unfold forget
  split
  · split
    · exact .inr rfl
    · exact .inl rfl
  · exact .inl rfl

omit [SharedStore σ String] in
@[simp] theorem forget_calls (s : CacheCluster σ ω) (c : CacheCall ω) (flight : Nat) :
    (s.forget c flight).calls = s.calls := by
  rcases s.forget_cases c flight with eq | eq <;> rw [eq]
  rfl

omit [SharedStore σ String] in
@[simp] theorem forget_flights (s : CacheCluster σ ω) (c : CacheCall ω) (flight : Nat) :
    (s.forget c flight).flights = s.flights := by
  rcases s.forget_cases c flight with eq | eq <;> rw [eq]
  rfl

omit [SharedStore σ String] in
@[simp] theorem forget_now (s : CacheCluster σ ω) (c : CacheCall ω) (flight : Nat) :
    (s.forget c flight).now = s.now := by
  rcases s.forget_cases c flight with eq | eq <;> rw [eq]
  rfl

theorem leave_move (s : CacheCluster σ ω) (failing : List StoreOperation) (id : Nat)
    {c : CacheCall ω} {flight : Nat} {result : FlightResult}
    (h : c.stage = .leaving flight result) :
    ∃ t, CallMove s failing id c t ∧ (s.leave id c flight result).bare = t.bare := by
  refine ⟨_, .left h, ?_⟩
  unfold leave
  simp only
  rw [show ∀ change, ((s.forget c flight).count c.process change).now = s.now from
    fun _ => s.forget_now c flight]
  exact bare_setCall (bare_count ..) ..

theorem stepCall_of_none {s : CacheCluster σ ω} {failing : List StoreOperation} {id : Nat}
    (h : s.calls[id]? = none) : s.stepCall failing id = s := by
  rw [stepCall, h]

theorem stepCall_move {s : CacheCluster σ ω} (failing : List StoreOperation) {id : Nat}
    {c : CacheCall ω} (h : s.calls[id]? = some c) :
    ∃ t, CallMove s failing id c t ∧ (s.stepCall failing id).bare = t.bare := by
  have stays : ∃ t, CallMove s failing id c t ∧ s.bare = t.bare := ⟨s, .stays, rfl⟩
  unfold stepCall
  rw [h]
  cases hs : c.stage with
  | running => simpa only [hs] using stays
  | looking => simpa only [hs] using s.lookUp_move failing id hs
  | joining => simpa only [hs] using s.join_move failing id hs
  | flying flight =>
    cases hf : s.flights[flight]? with
    | none => simpa only [hs, hf, Option.bind_none] using stays
    | some f =>
      cases hl : f.stage with
      | landed result => exact ⟨_, .landed hs hf hl, by simp [hs, hf, hl, FlightStage.result?]⟩
      | _ => simpa [hs, hf, hl, FlightStage.result?] using stays
  | leaving flight result => simpa only [hs] using s.leave_move failing id hs
  | returned result => simpa only [hs] using stays
  | cancelled => simpa only [hs] using stays

/-! ## ends -/

omit [SharedStore σ String]

/-- What the end of a job can do to the state. -/
inductive CompleteMove (s : CacheCluster σ ω) (result : Except GatewayError RowSet) :
    Runner → CacheCluster σ ω → Prop
  | answered {id : Nat} {c : CacheCall ω} : s.calls[id]? = some c → c.stage = .running →
    CompleteMove s result (.call id) (s.setCall id
      (.returned (c.answer s.now.clock (result.map fun rows => ⟨rows, false⟩))))
  | succeeded {id : Nat} {f : Flight ω} {due : Instant} {rows : RowSet} :
    s.flights[id]? = some f → f.stage = .running (some due) → result = .ok rows →
      CompleteMove s result (.flight id)
        (s.setFlight id (.publishing (.new rows f.ttl s.now.time.nanoseconds)))
  | failed {id : Nat} {f : Flight ω} {due : Instant} {e : GatewayError} :
    s.flights[id]? = some f → f.stage = .running (some due) → result = .error e →
      CompleteMove s result (.flight id) (s.setFlight id (.releasing (.error e)))
  | landed {id : Nat} {f : Flight ω} : s.flights[id]? = some f → f.stage = .running none →
    CompleteMove s result (.flight id)
      (s.setFlight id (.landed (result.map fun rows => ⟨rows, false⟩)))
  | stays {runner : Runner} : CompleteMove s result runner s

theorem complete_move (s : CacheCluster σ ω) (runner : Runner)
    (result : Except GatewayError RowSet) :
    CompleteMove s result runner (s.complete runner result) := by
  unfold complete
  split
  · split
    · rename_i c hc
      split
      · rename_i runs
        refine .answered hc ?_
        cases hs : c.stage with
        | running => rfl
        | _ =>
          rw [hs] at runs
          cases runs
      · exact .stays
    · exact .stays
  · split
    · rename_i f hf
      split
      · rename_i runs
        exact .succeeded hf runs rfl
      · rename_i runs
        exact .failed hf runs rfl
      · rename_i runs
        exact .landed hf runs
      · exact .stays
    · exact .stays

theorem desert_cases (s : CacheCluster σ ω) (id : Nat) :
    s.desert id = s ∨ ∃ f lease, s.flights[id]? = some f ∧
      (∀ result, f.stage ≠ .landed result) ∧ (∀ a ∈ lease, a = ⟨f.key.lease, f.owner⟩) ∧
      s.desert id = { s with abandoned := s.abandoned ++ lease }.setFlight id .deserted := by
  unfold desert
  split
  · exact .inl rfl
  · rename_i f hf
    split
    · exact .inl rfl
    · exact .inl rfl
    · rename_i aloft _
      refine .inr ⟨f, _, hf, aloft, fun a ha => ?_, rfl⟩
      split at ha
      · exact List.mem_singleton.1 ha
      · cases ha

theorem cancel_cases (s : CacheCluster σ ω) (id : Nat) :
    s.cancel id = s ∨ s.cancel id = s.setCall id .cancelled ∨
      ∃ flight, (s.setCall id .cancelled).isKeptUp flight = false ∧
        s.cancel id = (s.setCall id .cancelled).desert flight := by
  unfold cancel
  split
  · exact .inl rfl
  · split
    · simp only
      split
      · rename_i flight _
        split
        · exact .inr (.inl rfl)
        · rename_i left
          exact .inr (.inr ⟨flight, Bool.eq_false_iff.2 left, rfl⟩)
      · exact .inr (.inl rfl)
    · exact .inl rfl

theorem releaseAbandoned_cases [SharedStore σ String] (s : CacheCluster σ ω)
    (failing : List StoreOperation) :
    s.releaseAbandoned failing = s ∨ ∃ a rest, s.abandoned = a :: rest ∧
      s.releaseAbandoned failing =
        { s with
          abandoned := rest
          store := ((s.circumstances failing).attempt .release
            (SharedStore.release s.now a.lease a.owner) s.store).2 } := by
  unfold releaseAbandoned
  split
  · exact .inl rfl
  · rename_i a rest h
    exact .inr ⟨a, rest, h, rfl⟩

/-! ## what steps leave -/

/-- Nothing is done to the store. If a lease is left behind, it is the lease of a key. -/
structure LeavesStore (s t : CacheCluster σ ω) : Prop where
  now : t.now = s.now
  settings : t.settings = s.settings
  store : t.store = s.store
  abandoned : ∀ a ∈ t.abandoned, a ∈ s.abandoned ∨ ∃ key : CacheKey, a.lease = key.lease

theorem LeavesStore.of_eq {s t : CacheCluster σ ω} (now : t.now = s.now)
    (settings : t.settings = s.settings) (store : t.store = s.store)
    (abandoned : t.abandoned = s.abandoned) : s.LeavesStore t :=
  ⟨now, settings, store, fun _ ha => .inl (abandoned ▸ ha)⟩

theorem leavesStore_complete (s : CacheCluster σ ω) (runner : Runner)
    (result : Except GatewayError RowSet) : s.LeavesStore (s.complete runner result) := by
  have move := s.complete_move runner result
  generalize s.complete runner result = t at move
  cases move <;> exact .of_eq rfl rfl rfl rfl

theorem leavesStore_cancel (s : CacheCluster σ ω) (id : Nat) : s.LeavesStore (s.cancel id) := by
  rcases s.cancel_cases id with eq | eq | ⟨flight, -, eq⟩ <;> rw [eq]
  · exact .of_eq rfl rfl rfl rfl
  · exact .of_eq rfl rfl rfl rfl
  · rcases (s.setCall id .cancelled).desert_cases flight with eq | ⟨f, lease, -, -, owned, eq⟩ <;>
      rw [eq]
    · exact .of_eq rfl rfl rfl rfl
    · refine ⟨rfl, rfl, rfl, fun a ha => ?_⟩
      rcases List.mem_append.1 ha with ha | ha
      · exact .inl ha
      · exact .inr ⟨f.key, congrArg AbandonedLease.lease (owned a ha)⟩

variable [SharedStore σ String]

theorem leavesStore_stepCall (s : CacheCluster σ ω) (failing : List StoreOperation) (id : Nat) :
    s.LeavesStore (s.stepCall failing id) := by
  cases hc : s.calls[id]? with
  | none =>
    rw [stepCall_of_none hc]
    exact .of_eq rfl rfl rfl rfl
  | some c =>
    obtain ⟨t, move, eq⟩ := stepCall_move failing hc
    have same := of_bare_eq eq
    suffices s.LeavesStore t from
      ⟨same.now.trans this.now, same.settings.trans this.settings, same.store.trans this.store,
        same.abandoned ▸ this.abandoned⟩
    cases move with
    | left _ => rcases s.forget_cases c _ with eq | eq <;> rw [eq] <;> exact .of_eq rfl rfl rfl rfl
    | _ => exact .of_eq rfl rfl rfl rfl

theorem step_now (s : CacheCluster σ ω) (event : CacheEvent ω) :
    (s.step event).now = match event with
      | .tick now => now
      | _ => s.now := by
  cases event with
  | tick now => rfl
  | arrive request => rfl
  | stepCall id failing => exact (s.leavesStore_stepCall failing id).now
  | stepFlight id failing =>
    cases hf : s.flights[id]? with
    | none => rw [step, stepFlight_of_none hf]
    | some f =>
      obtain ⟨stage, store, -, eq⟩ := stepFlight_move failing hf
      exact (of_bare_eq eq).now
  | complete runner result => exact (s.leavesStore_complete runner result).now
  | cancel call => exact (s.leavesStore_cancel call).now
  | releaseAbandoned failing =>
    rcases s.releaseAbandoned_cases failing with eq | ⟨a, rest, -, eq⟩ <;> rw [step, eq]
  | purge failing => rfl

theorem step_settings (s : CacheCluster σ ω) (event : CacheEvent ω) :
    (s.step event).settings = s.settings := by
  cases event with
  | stepCall id failing => exact (s.leavesStore_stepCall failing id).settings
  | stepFlight id failing =>
    cases hf : s.flights[id]? with
    | none => rw [step, stepFlight_of_none hf]
    | some f =>
      obtain ⟨stage, store, -, eq⟩ := stepFlight_move failing hf
      exact (of_bare_eq eq).settings
  | complete runner result => exact (s.leavesStore_complete runner result).settings
  | cancel call => exact (s.leavesStore_cancel call).settings
  | releaseAbandoned failing =>
    rcases s.releaseAbandoned_cases failing with eq | ⟨a, rest, -, eq⟩ <;> rw [step, eq]
  | tick _ | arrive _ | purge _ => rfl

theorem run_concat (s : CacheCluster σ ω) (events : List (CacheEvent ω)) (event : CacheEvent ω) :
    s.run (events ++ [event]) = (s.run events).step event := List.foldl_append ..

end CacheCluster

end AnalyticsGateway
