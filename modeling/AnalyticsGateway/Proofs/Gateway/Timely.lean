import AnalyticsGateway.Proofs.Cache.Boarding
import AnalyticsGateway.Proofs.Cache.Founded
import AnalyticsGateway.Proofs.Gateway.Moves
import AnalyticsGateway.Proofs.Source.Dispatch

/-!
# Deadlines

Nothing is timed out before a deadline has come: a statement that a source works on, a job, a flight
and a call each have the deadline of the visit that they are for, and a call that has joined a
flight has that of the flight as well (`Timely`).
-/

namespace AnalyticsGateway

/-! ## errors that are no time-outs -/

namespace Gateway

variable {σ : Type}

theorem plan_ne_timeout {g : Gateway σ} {caller : Caller} {request : Request} {after : Duration} :
    g.plan caller request ≠ .error (.timeout after) := fun h => nomatch deniesPlan_of_plan h

variable [SharedStore σ String]

theorem pay_ne_timeout {g paid : Gateway σ} {failing : List StoreOperation} {caller : Caller}
    {route : Route} {after : Duration} :
    g.pay failing caller route ≠ (.error (.timeout after), paid) := fun h =>
  nomatch deniesEntry_of_pay h

/-! ## who waits for whom -/

section Waits

variable {start : Gateway σ} {events before : List GatewayEvent}

/-- The clock never goes back. -/
def GoesForward (start : Gateway σ) (events : List GatewayEvent) : Prop :=
  ∀ before m, before ++ [.tick m] <+: events → (start.run before).now.clock ≤ m.clock

/-- A visit that came then has asked the cache by a call. -/
def Fetches (start : Gateway σ) (events : List GatewayEvent) (visit call : Nat) (came : Instant) :
    Prop :=
  ∃ before v, before <+: events ∧ (start.run before).visits[visit]? = some v ∧
    v.stage = .fetching call ∧ v.started = came

/-- A call has been with a flight. -/
def Flies (start : Gateway σ) (events : List GatewayEvent) (call flight : Nat) : Prop :=
  ∃ before c, before <+: events ∧ (start.run before).cache.calls[call]? = some c ∧
    c.stage.flight? = some flight

/-- A call has started a flight. -/
def Launches (start : Gateway σ) (events : List GatewayEvent) (call flight : Nat) : Prop :=
  ∃ before failing, before ++ [.stepCall call failing] <+: events ∧
    (start.run before).cache.flights.length = flight ∧
    flight < (start.run (before ++ [.stepCall call failing])).cache.flights.length

/-- A visit has joined a flight that another call has started, of a visit that came then. -/
def Joins (start : Gateway σ) (events : List GatewayEvent) (visit : Nat) (came : Instant) : Prop :=
  ∃ call own other flight leader, start.Fetches events visit call own ∧
    start.Flies events call flight ∧ start.Launches events other flight ∧ other ≠ call ∧
    start.Fetches events leader other came

theorem Fetches.mono {visit call : Nat} {came : Instant} (reached : before <+: events) :
    start.Fetches before visit call came → start.Fetches events visit call came
  | ⟨before', v, there, rest⟩ => ⟨before', v, there.trans reached, rest⟩

theorem Flies.mono {call flight : Nat} (reached : before <+: events) :
    start.Flies before call flight → start.Flies events call flight
  | ⟨before', c, there, rest⟩ => ⟨before', c, there.trans reached, rest⟩

theorem Launches.mono {call flight : Nat} (reached : before <+: events) :
    start.Launches before call flight → start.Launches events call flight
  | ⟨before', failing, there, rest⟩ => ⟨before', failing, there.trans reached, rest⟩

/-- The deadline of a call has come, or that of a flight which it has been with. -/
def TooLate (start : Gateway σ) (events : List GatewayEvent) (cache : CacheCluster σ Job)
    (call : Nat) : Prop :=
  ∃ r, cache.request? (.call call) = some r ∧ (r.deadline ≤ cache.now.clock ∨
    ∃ flight r', start.Flies events call flight ∧ cache.request? (.flight flight) = some r' ∧
      r'.deadline ≤ cache.now.clock)

theorem TooLate.mono {cache cache' : CacheCluster σ Job} {call : Nat} (reached : before <+: events)
    (requests : cache.RequestsIn cache') (later : cache.now.clock ≤ cache'.now.clock) :
    start.TooLate before cache call → start.TooLate events cache' call
  | ⟨r, hr, .inl late⟩ => ⟨r, requests _ _ hr, .inl (Duration.le_trans late later)⟩
  | ⟨r, hr, .inr ⟨flight, r', flies, hr', late⟩⟩ => ⟨r, requests _ _ hr, .inr
      ⟨flight, r', flies.mono reached, requests _ _ hr', Duration.le_trans late later⟩⟩

end Waits

/-- A job is to be done by the deadline of its request, and a flight is timed out when it has
come. -/
def timeliness (now : Instant) : CacheFacts Job where
  Asked r := r.job.deadline = r.deadline
  Publishes _ _ := True
  Lands r result := ∀ after, result = .error (.timeout after) → r.deadline ≤ now
  Serves _ _ := True
  lands _ := nofun
  serves _ := trivial

theorem timeliness_le {now later : Instant} (le : now ≤ later) :
    (timeliness now).Le (timeliness later) where
  asked h := h
  publishes h := h
  lands h after eq := Duration.le_trans (h after eq) le
  serves h := h

/-- What may happen to the caches: the clock goes on, a visit asks for what it is to have by its own
deadline, and a job is timed out when the deadline of its request has come. -/
inductive InOrder (start : Gateway σ) (events : List GatewayEvent) (cache : CacheCluster σ Job) :
    CacheEvent Job → Prop
  | tick {now : Moment} : cache.now.clock ≤ now.clock → InOrder start events cache (.tick now)
  | arrive {r : CacheRequest Job} {visit : Nat} {came : Instant} :
    start.Fetches events visit cache.calls.length came →
    r.deadline = came.add start.settings.queryTimeout → r.job.deadline = r.deadline →
      InOrder start events cache (.arrive r)
  | stepCall {call : Nat} {failing : List StoreOperation} :
    (cache.flights.length < (cache.stepCall failing call).flights.length →
      start.Launches events call cache.flights.length) →
      InOrder start events cache (.stepCall call failing)
  | stepFlight {flight : Nat} {failing : List StoreOperation} :
    InOrder start events cache (.stepFlight flight failing)
  | complete {runner : Runner} {result : Except GatewayError RowSet} :
    (∀ r after, cache.request? runner = some r → result = .error (.timeout after) →
      r.deadline ≤ cache.now.clock) → InOrder start events cache (.complete runner result)
  | cancel {call : Nat} : InOrder start events cache (.cancel call)
  | releaseAbandoned {failing : List StoreOperation} :
    InOrder start events cache (.releaseAbandoned failing)
  | purge {failing : List StoreOperation} : InOrder start events cache (.purge failing)

section InOrder

variable {start : Gateway σ} {events : List GatewayEvent} {cache : CacheCluster σ Job}
  {e : CacheEvent Job}

theorem InOrder.later (order : start.InOrder events cache e) :
    cache.now.clock ≤ (cache.step e).now.clock := by
  rw [CacheCluster.step_now]
  cases order with
  | tick later => exact later
  | _ => exact Duration.le_refl _

theorem InOrder.founded (order : start.InOrder events cache e)
    (founded : Founded (timeliness cache.now.clock) cache) :
    Founded (timeliness (cache.step e).now.clock) (cache.step e) := by
  rw [CacheCluster.step_now]
  cases order with
  | tick later => exact (founded.mono (timeliness_le later)).of_eq rfl rfl fun _ => rfl
  | arrive _ _ asked => exact founded.arrive asked
  | stepCall _ => exact founded.stepCall fun _ _ _ _ _ => trivial
  | stepFlight =>
    refine founded.stepFlight (fun _ _ _ _ _ _ eq => ?_) fun _ _ gives _ _ => gives.2.2
    cases eq
  | @complete runner result late =>
    refine founded.complete fun r _ hr _ => ⟨fun after eq => ?_, fun _ _ => trivial⟩
    cases result with
    | ok rows => cases eq
    | error e =>
      cases eq
      exact late r after hr rfl
  | cancel => exact founded.cancel _
  | releaseAbandoned => exact founded.releaseAbandoned _
  | purge => exact founded.of_eq rfl rfl fun _ => rfl

end InOrder

end Gateway

/-! ## the invariant -/

variable {σ : Type} [SharedStore σ String]

structure Timely (start : Gateway σ) (events : List GatewayEvent) (g : Gateway σ) : Prop where
  settings : g.settings = start.settings
  founded : Founded (Gateway.timeliness g.now.clock) g.cache
  aboard : g.cache.AllAboard
  dispatched : ∀ {runner : Runner} {d : Dispatch}, (runner, d) ∈ g.dispatches →
    d.IsPunctual g.now.clock ∧ ∃ r, g.cache.request? runner = some r ∧ r.deadline ≤ d.deadline
  called : ∀ {call : Nat} {r : CacheRequest Job}, g.cache.request? (.call call) = some r →
    ∃ visit came, start.Fetches events visit call came ∧
      r.deadline = came.add start.settings.queryTimeout
  launched : ∀ {flight : Nat} {r : CacheRequest Job}, g.cache.request? (.flight flight) = some r →
    ∃ call, start.Launches events call flight ∧ g.cache.request? (.call call) = some r
  returned : ∀ {call : Nat} {c : CacheCall Job} {after : Duration},
    g.cache.calls[call]? = some c → c.stage = .returned (.error (.timeout after)) →
      start.TooLate events g.cache call
  fetching : ∀ {id call : Nat} {v : Visit}, g.visits[id]? = some v → v.stage = .fetching call →
    ∃ r, g.cache.request? (.call call) = some r ∧
      r.deadline = v.started.add start.settings.queryTimeout
  describing : ∀ {id : Nat} {v : Visit} {source : String} {engine : Engine} {deadline : Instant},
    g.visits[id]? = some v → v.stage = .describing source engine deadline →
      ∀ request, v.action ≠ .query request
  done : ∀ {id : Nat} {v : Visit} {request : Request} {after : Duration},
    g.visits[id]? = some v → v.action = .query request →
    v.stage = .done (.error (.timeout after)) → ∃ call r, start.Fetches events id call v.started ∧
      g.cache.request? (.call call) = some r ∧
      r.deadline = v.started.add start.settings.queryTimeout ∧ start.TooLate events g.cache call

namespace Timely

variable {start g : Gateway σ} {events before : List GatewayEvent}

theorem mono (inv : Timely start before g) (reached : before <+: events) :
    Timely start events g where
  settings := inv.settings
  founded := inv.founded
  aboard := inv.aboard
  dispatched := inv.dispatched
  called hr := by
    obtain ⟨visit, came, fetches, deadline⟩ := inv.called hr
    exact ⟨visit, came, fetches.mono reached, deadline⟩
  launched hr := by
    obtain ⟨call, launches, same⟩ := inv.launched hr
    exact ⟨call, launches.mono reached, same⟩
  returned hc stage := (inv.returned hc stage).mono reached (.refl _) (Duration.le_refl _)
  fetching := inv.fetching
  describing := inv.describing
  done hv action stage := by
    obtain ⟨call, r, fetches, hr, deadline, late⟩ := inv.done hv action stage
    exact ⟨call, r, fetches.mono reached, hr, deadline,
      late.mono reached (.refl _) (Duration.le_refl _)⟩

/-! ## changes of a part -/

/-- What has no part in deadlines may change. -/
theorem of_eq (inv : Timely start events g) {g' : Gateway σ} (settings : g'.settings = g.settings)
    (cache : g'.cache = g.cache) (dispatches : g'.dispatches = g.dispatches)
    (visits : g'.visits = g.visits) : Timely start events g' := by
  obtain ⟨settings', engines, catalog, file, cache', dispatches', visits'⟩ := g'
  cases settings
  cases cache
  cases dispatches
  cases visits
  exact ⟨inv.settings, inv.founded, inv.aboard, inv.dispatched, inv.called, inv.launched,
    inv.returned, inv.fetching, inv.describing, inv.done⟩

theorem withStore (inv : Timely start events g) (store : σ) :
    Timely start events { g with cache := { g.cache with store } } where
  settings := inv.settings
  founded := inv.founded.withStore store
  aboard hc keeps := (inv.aboard hc keeps).of_eq rfl rfl
  dispatched := inv.dispatched
  called := inv.called
  launched := inv.launched
  returned := inv.returned
  fetching := inv.fetching
  describing := inv.describing
  done := inv.done

theorem withDispatches (inv : Timely start events g) {dispatches : List (Runner × Dispatch)}
    (dispatched : ∀ {runner d}, (runner, d) ∈ dispatches → d.IsPunctual g.now.clock ∧
      ∃ r, g.cache.request? runner = some r ∧ r.deadline ≤ d.deadline) :
    Timely start events { g with dispatches } :=
  { inv with dispatched }

theorem dropDispatches (inv : Timely start events g) : Timely start events g.dropDispatches :=
  inv.withDispatches fun hd => inv.dispatched (List.mem_of_mem_filter hd)

theorem setVisit (inv : Timely start events g) (id : Nat) {stage : VisitStage}
    (fetching : ∀ v call, g.visits[id]? = some v → stage = .fetching call →
      ∃ r, g.cache.request? (.call call) = some r ∧
        r.deadline = v.started.add start.settings.queryTimeout)
    (describing : ∀ v source engine deadline, g.visits[id]? = some v →
      stage = .describing source engine deadline → ∀ request, v.action ≠ .query request)
    (done : ∀ v request after, g.visits[id]? = some v → v.action = .query request →
      stage = .done (.error (.timeout after)) → ∃ call r, start.Fetches events id call v.started ∧
        g.cache.request? (.call call) = some r ∧
        r.deadline = v.started.add start.settings.queryTimeout ∧
        start.TooLate events g.cache call) : Timely start events (g.setVisit id stage) :=
  { inv with
    fetching := fun hv eq => by
      rcases Gateway.of_setVisit hv with ⟨-, hv⟩ | ⟨rfl, old, hold, rfl⟩
      · exact inv.fetching hv eq
      · exact fetching old _ hold eq
    describing := fun hv eq => by
      rcases Gateway.of_setVisit hv with ⟨-, hv⟩ | ⟨rfl, old, hold, rfl⟩
      · exact inv.describing hv eq
      · exact describing old _ _ _ hold eq
    done := fun hv action eq => by
      rcases Gateway.of_setVisit hv with ⟨-, hv⟩ | ⟨rfl, old, hold, rfl⟩
      · exact inv.done hv action eq
      · exact done old _ _ hold action eq }

/-- A visit whose call is not timed out may go on. -/
theorem goOn (inv : Timely start events g) (id : Nat) {stage : VisitStage}
    (waits : stage = .preparing ∨ stage = .cancelled) :
    Timely start events (g.setVisit id stage) := by
  refine inv.setVisit id (fun _ _ _ eq => ?_) (fun _ _ _ _ _ eq => ?_) fun _ _ _ _ _ eq => ?_
  all_goals
    subst eq
    rcases waits with waits | waits <;> cases waits

theorem finish (inv : Timely start events g) (id : Nat) {answer : Except GatewayError Answer}
    (inTime : ∀ v request after, g.visits[id]? = some v → v.action = .query request →
      answer ≠ .error (.timeout after)) : Timely start events (g.finish id answer) := by
  refine inv.setVisit id (fun _ _ _ => nofun) (fun _ _ _ _ _ => nofun) ?_
  intro v request after hv action eq
  exact absurd (VisitStage.done.inj eq) (inTime v request after hv action)

/-! ## caches -/

/-- A call is told that it is too late when its own deadline has come, or that of its flight. -/
theorem tooLate_of_answers (inv : Timely start events g) {e : CacheEvent Job}
    (known : g.cache = (start.run before).cache) (reached : before <+: events)
    (order : start.InOrder events g.cache e) {call : Nat} {c : CacheCall Job} {after : Duration}
    (hc : g.cache.calls[call]? = some c)
    (answers : g.cache.Answers e call c (.error (.timeout after))) :
    start.TooLate events g.cache call := by
  have hr := CacheCluster.request?_of_call hc
  generalize eq : Except.error (GatewayError.timeout after) = answer at answers
  cases answers with
  | found _ => cases eq
  | @ran result ended _ =>
    cases result with
    | ok rows => cases eq
    | error e =>
      cases eq
      subst ended
      cases order with
      | complete late => exact ⟨_, hr, .inl (late _ after hr rfl)⟩
  | @left flight result leaves =>
    cases result with
    | ok served => cases eq
    | error e =>
      cases eq
      have keeps : c.stage.flight? = some flight := by rw [leaves, CallStage.flight?]
      obtain ⟨c', f, hc', hf, boards⟩ := inv.aboard hc keeps
      cases hc.symm.trans hc'
      have lands : f.stage = .landed (.error (.timeout after)) := by
        cases boards with
        | leaves leaves' lands =>
          cases leaves.symm.trans leaves'
          exact lands
        | flies stage | returned _ stage | cancelled stage => cases leaves.symm.trans stage
      have late := (inv.founded.flights hf).2
      rw [lands] at late
      exact ⟨_, hr, .inr ⟨flight, _, ⟨before, c, reached, known ▸ hc, keeps⟩,
        CacheCluster.request?_of_flight hf, late after rfl⟩⟩

theorem stepCache (inv : Timely start events g) {e : CacheEvent Job}
    (known : g.cache = (start.run before).cache) (reached : before <+: events)
    (order : start.InOrder events g.cache e) : Timely start events (g.stepCache e) := by
  have requests := CacheCluster.requestsIn_step g.cache e
  have later := order.later
  refine {
    settings := inv.settings
    founded := order.founded inv.founded
    aboard := CacheCluster.AllAboard.step inv.aboard e
    dispatched := fun hd => ?_
    called := fun hr => ?_
    launched := fun hr => ?_
    returned := fun hc stage => ?_
    fetching := fun hv stage => ?_
    describing := inv.describing
    done := fun hv action stage => ?_ }
  · obtain ⟨punctual, r, hr, le⟩ := inv.dispatched hd
    exact ⟨fun after eq => Duration.le_trans (punctual after eq) later, r, requests _ _ hr, le⟩
  · rcases CacheCluster.request_cases hr with old | ⟨rfl, last⟩ | ⟨_, _, -, flight, -⟩
    · exact inv.called old
    · cases last
      cases order with
      | arrive fetches deadline _ => exact ⟨_, _, fetches, deadline⟩
    · cases flight
  · rcases CacheCluster.request_cases hr with
      old | ⟨-, call⟩ | ⟨call, failing, rfl, last, more, same⟩
    · obtain ⟨call, launches, same⟩ := inv.launched old
      exact ⟨call, launches, requests _ _ same⟩
    · cases call
    · cases last
      cases order with
      | stepCall launches => exact ⟨call, launches more, requests _ _ same⟩
  · rcases CacheCluster.returned_cases hc stage with old | ⟨old, hold, answers⟩
    · exact (inv.returned old stage).mono (List.prefix_refl _) requests later
    · exact (inv.tooLate_of_answers known reached order hold answers).mono (List.prefix_refl _)
        requests later
  · obtain ⟨r, hr, deadline⟩ := inv.fetching hv stage
    exact ⟨r, requests _ _ hr, deadline⟩
  · obtain ⟨call, r, fetches, hr, deadline, late⟩ := inv.done hv action stage
    exact ⟨call, r, fetches, requests _ _ hr, deadline,
      late.mono (List.prefix_refl _) requests later⟩

/-! ## statements -/

/-- A statement that is punctual may be settled for a runner that it leaves enough time. -/
theorem settle (inv : Timely start events g) (known : g.cache = (start.run before).cache)
    (reached : before <+: events) {runner : Runner} {r : CacheRequest Job} {d : Dispatch}
    (hr : g.cache.request? runner = some r) (enough : r.deadline ≤ d.deadline)
    (punctual : d.IsPunctual g.now.clock) : Timely start events (g.settle runner d) := by
  unfold Gateway.settle
  split
  · rename_i result ended
    refine (inv.stepCache known reached (.complete fun r' after hr' eq => ?_)).dropDispatches
    cases hr.symm.trans hr'
    exact Duration.le_trans enough (punctual after (eq ▸ ended))
  · refine inv.withDispatches fun hd => ?_
    rcases List.mem_cons.1 hd with same | hd
    · cases same
      exact ⟨punctual, r, hr, enough⟩
    · exact inv.dispatched (List.mem_of_mem_filter hd)

theorem of_dispatch? (inv : Timely start events g) {runner : Runner} {d : Dispatch}
    (h : g.dispatch? runner = some d) : d.IsPunctual g.now.clock ∧
      ∃ r, g.cache.request? runner = some r ∧ r.deadline ≤ d.deadline := by
  obtain ⟨⟨runner', d'⟩, found, rfl⟩ := Option.map_eq_some_iff.1 h
  have same : runner' = runner := by simpa using List.find?_some found
  exact inv.dispatched (same ▸ List.mem_of_find?_eq_some found)

theorem startJob (inv : Timely start events g) (known : g.cache = (start.run before).cache)
    (reached : before <+: events) (runner : Runner) :
    Timely start events (g.startJob runner) := by
  unfold Gateway.startJob
  split
  · rename_i job _ runs
    obtain ⟨r, hr, rfl⟩ := CacheCluster.request?_of_job? runs
    have asked : r.job.deadline = r.deadline := inv.founded.asked_request hr
    refine inv.settle known reached hr ?_ (Dispatch.isPunctual_start _ _ _ _ _)
    rw [← asked]
    exact Dispatch.deadline_le_start ..
  · exact inv

theorem answerJob (inv : Timely start events g) (known : g.cache = (start.run before).cache)
    (reached : before <+: events) (runner : Runner) (outcome : Except SourceError RowSet) :
    Timely start events (g.answerJob runner outcome) := by
  unfold Gateway.answerJob
  split
  · rename_i d hd
    obtain ⟨punctual, r, hr, enough⟩ := inv.of_dispatch? hd
    rw [← d.deadline_answer g.now.clock outcome] at enough
    exact inv.settle known reached hr enough (punctual.answer outcome)
  · exact inv

theorem expireJob (inv : Timely start events g) (known : g.cache = (start.run before).cache)
    (reached : before <+: events) (runner : Runner) :
    Timely start events (g.expireJob runner) := by
  unfold Gateway.expireJob
  split
  · rename_i d hd
    obtain ⟨punctual, r, hr, enough⟩ := inv.of_dispatch? hd
    rw [← d.deadline_expire g.now.clock] at enough
    exact inv.settle known reached hr enough punctual.expire
  · exact inv

/-! ## visits -/

theorem paid {paid : Gateway σ} (inv : Timely start events g) {failing : List StoreOperation}
    {caller : Caller} {route : Route} {answer : Except GatewayError Unit}
    (h : g.pay failing caller route = (answer, paid)) : Timely start events paid := by
  have after := inv.withStore (g.pay failing caller route).2.cache.store
  have same : (g.pay failing caller route).2 =
    { g with cache := { g.cache with store := (g.pay failing caller route).2.cache.store } } := rfl
  rw [← same, h] at after
  exact after

/-- A visit whose call has returned is timed out if its call is. -/
theorem serve (inv : Timely start events g) {id call : Nat} {v : Visit}
    {result : Except GatewayError QueryResult} (hv : g.visits[id]? = some v)
    (fetching : v.stage = .fetching call)
    (fetches : start.Fetches events id call v.started)
    (returned : (g.cache.calls[call]?.bind fun call => call.stage.result?) = some result) :
    Timely start events (g.finish id (result.map .result)) := by
  refine inv.setVisit id (fun _ _ _ => nofun) (fun _ _ _ _ _ => nofun) ?_
  intro v' request after hv' _ eq
  cases hv.symm.trans hv'
  have late : result = .error (.timeout after) := by
    cases result with
    | ok answer => cases eq
    | error e =>
      cases eq
      rfl
  subst late
  obtain ⟨r, hr, deadline⟩ := inv.fetching hv fetching
  refine ⟨call, r, fetches, hr, deadline, ?_⟩
  obtain ⟨c, hc, stage⟩ := Option.bind_eq_some_iff.1 returned
  exact inv.returned hc (CallStage.result?_eq_some.1 stage)

/-- A visit asks the cache for what it is to have by its own deadline. -/
theorem arrive (inv : Timely start events g) (known : g.cache = (start.run before).cache)
    (reached : before <+: events) {id : Nat} {v : Visit} {d : Dataset} {p : Plan}
    (hv : g.visits[id]? = some v)
    (fetches : start.Fetches events id g.cache.calls.length v.started) :
    Timely start events ((g.stepCache (.arrive (g.requestFor v d p))).setVisit id
      (.fetching g.cache.calls.length)) := by
  have deadline : (g.requestFor v d p).deadline =
      v.started.add start.settings.queryTimeout := inv.settings ▸ rfl
  have arrived : Timely start events (g.stepCache (.arrive (g.requestFor v d p))) :=
    inv.stepCache known reached (.arrive fetches deadline rfl)
  refine arrived.setVisit id (fun v' call hv' eq => ?_) (fun _ _ _ _ _ => nofun)
    fun _ _ _ _ _ => nofun
  cases hv.symm.trans hv'
  cases eq
  exact ⟨_, g.cache.request?_arrive _, deadline⟩

theorem stepVisit (inv : Timely start events (start.run events)) (failing : List StoreOperation)
    (id : Nat) : Timely start (events ++ [.stepVisit id failing])
      ((start.run events).stepVisit failing id) := by
  have here : events <+: events ++ [.stepVisit id failing] := List.prefix_append ..
  have last := Gateway.run_concat start events (.stepVisit id failing)
  have inv := inv.mono here
  rw [Gateway.step] at last
  cases hv : (start.run events).visits[id]? with
  | none => rwa [Gateway.stepVisit, hv]
  | some v =>
    have move := Gateway.stepVisit_move failing hv
    generalize (start.run events).stepVisit failing id = g' at move last ⊢
    cases move with
    | free _ _ _ => exact inv.goOn id (.inl rfl)
    | admitted _ _ _ eq => exact (inv.paid eq).goOn id (.inl rfl)
    | denied _ _ _ eq =>
      refine (inv.paid eq).finish id fun _ _ after _ _ same => ?_
      cases same
      exact Gateway.pay_ne_timeout eq
    | planned preparing action plan =>
      let fetching : Visit :=
        { v with stage := .fetching (start.run events).cache.calls.length }
      refine inv.arrive rfl here hv ⟨_, fetching, List.prefix_refl _, ?_, rfl, rfl⟩
      rw [last, Gateway.setVisit, List.getElem?_modify_eq]
      exact congrArg (Option.map _) hv
    | @reloaded catalog _ _ _ =>
      have reloaded : Timely start (events ++ [.stepVisit id failing])
        { start.run events with catalog } := inv.of_eq rfl rfl rfl rfl
      exact reloaded.finish id (by rintro _ _ _ _ _ ⟨⟩)
    | describes _ action =>
      refine inv.setVisit id (by rintro _ _ _ ⟨⟩) (fun v' _ _ _ hv' _ request => ?_)
        (by rintro _ _ _ _ _ ⟨⟩)
      cases hv.symm.trans hv'
      rw [action]
      rintro ⟨⟩
    | refused _ refused =>
      refine inv.finish id fun v' request after hv' action same => ?_
      cases hv.symm.trans hv'
      rw [action] at refused
      cases refused
    | unplanned _ _ plan =>
      refine inv.finish id fun _ _ after _ _ same => ?_
      cases same
      exact Gateway.plan_ne_timeout plan
    | answered _ other _ =>
      refine inv.finish id fun v' request _ hv' action => ?_
      cases hv.symm.trans hv'
      exact absurd action (other request)
    | served fetching returned =>
      exact inv.serve hv fetching ⟨events, v, here, hv, fetching, rfl⟩ returned
    | stays => exact inv

theorem cancelVisit (inv : Timely start events g) (known : g.cache = (start.run before).cache)
    (reached : before <+: events) (id : Nat) : Timely start events (g.cancelVisit id) := by
  have cancelled : Timely start events (g.setVisit id .cancelled) := inv.goOn id (.inr rfl)
  rcases g.cancelVisit_cases id with eq | eq | ⟨call, eq⟩ <;> rw [eq]
  · exact inv
  · exact cancelled
  · exact (cancelled.stepCache known reached .cancel).dropDispatches

/-- A visit that asks for tables is no query. -/
theorem finish_of_describes (inv : Timely start events g) {id : Nat} (describes : g.Describes id)
    (answer : Except GatewayError Answer) : Timely start events (g.finish id answer) := by
  obtain ⟨v, source, engine, deadline, hv, describing⟩ := describes
  refine inv.finish id fun v' request _ hv' action => ?_
  cases hv.symm.trans hv'
  exact absurd action (inv.describing hv describing request)

theorem visit (inv : Timely start events g) (process : Nat) (caller : Caller) (action : Action) :
    Timely start events (g.visit process caller action) :=
  { inv with
    fetching := fun hv stage => by
      rcases of_concat hv with hv | ⟨-, rfl⟩
      · exact inv.fetching hv stage
      · cases stage
    describing := fun hv stage => by
      rcases of_concat hv with hv | ⟨-, rfl⟩
      · exact inv.describing hv stage
      · cases stage
    done := fun hv action stage => by
      rcases of_concat hv with hv | ⟨-, rfl⟩
      · exact inv.done hv action stage
      · cases stage }

/-! ## runs -/

theorem initial (settings : GatewaySettings) (engines : Engines) (catalog : Catalog)
    (processes : Nat) (now : Moment) (store : σ) :
    Timely (.start settings engines catalog processes now store) []
      (.start settings engines catalog processes now store) where
  settings := rfl
  founded := .fresh settings.lease processes now store
  aboard := nofun
  dispatched := nofun
  called := nofun
  launched := nofun
  returned := nofun
  fetching := nofun
  describing := nofun
  done := nofun

theorem step (inv : Timely start events (start.run events)) {event : GatewayEvent}
    (forward : ∀ m, event = .tick m → (start.run events).now.clock ≤ m.clock) :
    Timely start (events ++ [event]) (start.run (events ++ [event])) := by
  have here : events <+: events ++ [event] := List.prefix_append ..
  have later := inv.mono here
  have last := Gateway.run_concat start events event
  rw [last]
  cases event with
  | tick now => exact later.stepCache rfl here (.tick (forward now rfl))
  | visit process caller action => exact later.visit process caller action
  | stepVisit id failing => exact inv.stepVisit failing id
  | cancelVisit id => exact later.cancelVisit rfl here id
  | stepCall id failing =>
    refine later.stepCache rfl here (.stepCall fun more => ?_)
    refine ⟨events, failing, List.prefix_refl _, rfl, ?_⟩
    rw [last]
    exact more
  | stepFlight id failing => exact later.stepCache rfl here .stepFlight
  | releaseAbandoned failing => exact later.stepCache rfl here .releaseAbandoned
  | purge failing => exact later.stepCache rfl here .purge
  | startJob runner => exact later.startJob rfl here runner
  | answerJob runner outcome => exact later.answerJob rfl here runner outcome
  | expireJob runner => exact later.expireJob rfl here runner
  | answerVisit id outcome =>
    rw [Gateway.step]
    rcases (start.run events).answerVisit_cases id outcome with
      eq | ⟨describes, answer, -, eq⟩ <;> rw [eq]
    · exact later
    · exact later.finish_of_describes describes answer
  | expireVisit id =>
    rw [Gateway.step]
    rcases (start.run events).expireVisit_cases id with eq | ⟨describes, e, eq⟩ <;> rw [eq]
    · exact later
    · exact later.finish_of_describes describes (.error e)
  | replaceCatalog datasets =>
    rcases (start.run events).replaceCatalog_cases datasets with eq | ⟨catalog, -, eq⟩ <;> rw [eq]
    · exact later
    · exact later.of_eq rfl rfl rfl rfl
  | writeFile text => exact later.of_eq rfl rfl rfl rfl

/-- Whatever happens under a clock that never goes back, no deadline is missed. -/
theorem run (settings : GatewaySettings) (engines : Engines) (catalog : Catalog) (processes : Nat)
    (now : Moment) (store : σ) (events : List GatewayEvent) (start : Gateway σ)
    (starts : start = .start settings engines catalog processes now store)
    (forward : start.GoesForward events) : Timely start events (start.run events) := by
  subst starts
  induction events using List.reverseRecOn with
  | nil => exact .initial settings engines catalog processes now store
  | append_singleton events event ih =>
    have inv := ih fun before m there => forward before m (there.trans (List.prefix_append ..))
    exact inv.step fun m eq => forward events m (eq ▸ List.prefix_refl _)

end Timely

end AnalyticsGateway
