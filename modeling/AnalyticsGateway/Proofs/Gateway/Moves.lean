import AnalyticsGateway.Gateway.Step
import AnalyticsGateway.Proofs.Cache.Moves
import AnalyticsGateway.Proofs.Except
import AnalyticsGateway.Proofs.Place

/-!
# What a step of a visit can change

A step of a visit is one of a few moves (`VisitMove`), each of which puts the visit at another stage
and changes at most one other thing: the store, the cache or the catalog. The other events that
concern a visit, and those that concern a catalog, do what they are for or nothing.
-/

namespace AnalyticsGateway

variable {σ : Type}

namespace Gateway

/-- What a visit asks of the cache. -/
def requestFor (g : Gateway σ) (v : Visit) (d : Dataset) (p : Plan) : CacheRequest Job where
  process := v.process
  key := p.key
  ttl := d.timeToLive g.settings.timeToLive
  deadline := v.started.add g.settings.queryTimeout
  job := ⟨d.source, p.sql, v.started.add g.settings.queryTimeout⟩

theorem of_setVisit {g : Gateway σ} {id i : Nat} {stage : VisitStage} {v : Visit}
    (h : (g.setVisit id stage).visits[i]? = some v) :
    i ≠ id ∧ g.visits[i]? = some v ∨
      i = id ∧ ∃ old, g.visits[i]? = some old ∧ v = { old with stage } :=
  of_modify h

end Gateway

/-! ## errors by which a visit is turned away -/

namespace GatewayError

/-- Whether a visit is turned away before it has read anything: its caller may not ask for it, or
gets no token. -/
def deniesEntry : GatewayError → Bool
  | forbidden _ | rateLimited _ | unavailable _ => true
  | _ => false

/-- Whether a query is turned away before its rows are asked for. -/
def deniesPlan : GatewayError → Bool
  | compile _ | security _ | render _ => true
  | _ => false

end GatewayError

theorem Dataset.deniesPlan_of_plan {d : Dataset} {c : Ceilings} {caller : Caller}
    {request : Request} {e : GatewayError} (h : d.plan c caller request = .error e) :
    e.deniesPlan := by
  unfold Dataset.plan at h
  rcases bind_eq_error.1 h with h | ⟨compiled, -, h⟩
  · obtain ⟨_, -, rfl⟩ := mapError_eq_error.1 h
    rfl
  rcases bind_eq_error.1 h with h | ⟨query, -, h⟩
  · obtain ⟨_, -, rfl⟩ := mapError_eq_error.1 h
    rfl
  rcases bind_eq_error.1 h with h | ⟨sql, -, h⟩
  · obtain ⟨_, -, rfl⟩ := mapError_eq_error.1 h
    rfl
  rcases bind_eq_error.1 h with h | ⟨key, -, h⟩
  · obtain ⟨_, -, rfl⟩ := mapError_eq_error.1 h
    rfl
  · cases h

namespace Gateway

theorem deniesPlan_of_plan {g : Gateway σ} {caller : Caller} {request : Request}
    {e : GatewayError} (h : g.plan caller request = .error e) : e.deniesPlan := by
  unfold plan at h
  split at h
  · cases h
    rfl
  · rcases bind_eq_error.1 h with h | ⟨plan, -, h⟩
    · exact Dataset.deniesPlan_of_plan h
    · cases h

theorem deniesEntry_of_checkCaller {caller : Caller} {action : Action} {e : GatewayError}
    (h : checkCaller caller action = .error e) : e.deniesEntry := by
  have only {deed : String} (h : onlyAdmins caller deed = .error e) : e.deniesEntry := by
    unfold onlyAdmins at h
    split at h <;> cases h
    rfl
  cases action with
  | query request | explain request => cases h
  | listDatasets => cases h
  | describe source => exact only h
  | reloadCatalog => exact only h
  | cacheStats => exact only h

theorem deniesEntry_of_pay [SharedStore σ String] {g paid : Gateway σ}
    {failing : List StoreOperation} {caller : Caller} {route : Route} {e : GatewayError}
    (h : g.pay failing caller route = (.error e, paid)) : e.deniesEntry := by
  have answer := congrArg Prod.fst h
  simp only [pay] at answer
  split at answer <;> cases answer <;> rfl

end Gateway

variable [SharedStore σ String]

/-! ## steps of visits -/

open Gateway in
/-- What a step of a visit can do. -/
inductive VisitMove (g : Gateway σ) (failing : List StoreOperation) (id : Nat) (v : Visit) :
    Gateway σ → Prop
  | refused {e : GatewayError} : v.stage = .entering → checkCaller v.caller v.action = .error e →
    VisitMove g failing id v (g.finish id (.error e))
  | free : v.stage = .entering → checkCaller v.caller v.action = .ok () →
    route? v.action = none → VisitMove g failing id v (g.setVisit id .preparing)
  | admitted {route : Route} {paid : Gateway σ} : v.stage = .entering →
    checkCaller v.caller v.action = .ok () → route? v.action = some route →
    g.pay failing v.caller route = (.ok (), paid) →
    VisitMove g failing id v (paid.setVisit id .preparing)
  | denied {route : Route} {e : GatewayError} {paid : Gateway σ} : v.stage = .entering →
    checkCaller v.caller v.action = .ok () → route? v.action = some route →
    g.pay failing v.caller route = (.error e, paid) →
    VisitMove g failing id v (paid.finish id (.error e))
  | planned {request : Request} {d : Dataset} {p : Plan} : v.stage = .preparing →
    v.action = .query request → g.plan v.caller request = .ok (d, p) →
    VisitMove g failing id v (({ g with cache := g.cache.arrive (g.requestFor v d p) }).setVisit id
      (.fetching g.cache.calls.length))
  | unplanned {request : Request} {e : GatewayError} : v.stage = .preparing →
    v.action = .query request → g.plan v.caller request = .error e →
    VisitMove g failing id v (g.finish id (.error e))
  | reloaded {catalog : Catalog} : v.stage = .preparing → v.action = .reloadCatalog →
    g.catalog.reload g.file = .ok catalog →
    VisitMove g failing id v (({ g with catalog }).finish id (.ok (.version catalog.version)))
  | describes {source : String} {engine : Engine} {deadline : Instant} : v.stage = .preparing →
    v.action = .describe source →
    VisitMove g failing id v (g.setVisit id (.describing source engine deadline))
  /-- An answer without rows. -/
  | answered {answer : Except GatewayError Answer} : v.stage = .preparing →
    (∀ request, v.action ≠ .query request) → (∀ result, answer ≠ .ok (.result result)) →
    VisitMove g failing id v (g.finish id answer)
  | served {call : Nat} {result : Except GatewayError QueryResult} : v.stage = .fetching call →
    (g.cache.calls[call]?.bind fun call => call.stage.result?) = some result →
    VisitMove g failing id v (g.finish id (result.map .result))
  | stays : VisitMove g failing id v g

namespace Gateway

theorem enter_move (g : Gateway σ) (failing : List StoreOperation) (id : Nat) {v : Visit}
    (h : v.stage = .entering) : VisitMove g failing id v (g.enter failing id v) := by
  unfold enter
  split
  · rename_i e refused
    exact .refused h refused
  · rename_i welcome
    split
    · rename_i free
      exact .free h welcome free
    · rename_i route priced
      split
      · rename_i paid eq
        exact .admitted h welcome priced eq
      · rename_i e paid eq
        exact .denied h welcome priced eq

theorem prepare_move (g : Gateway σ) (failing : List StoreOperation) (id : Nat) {v : Visit}
    (h : v.stage = .preparing) : VisitMove g failing id v (g.prepare id v) := by
  have other {action : Action} (eq : v.action = action)
      (ne : ∀ request, action ≠ .query request) : ∀ request, v.action ≠ .query request := eq ▸ ne
  unfold prepare
  split
  · rename_i request action
    unfold fetch
    split
    · rename_i e eq
      exact .unplanned h action eq
    · rename_i d p eq
      exact .planned h action eq
  · rename_i request action
    exact .answered h (other action nofun) fun _ => map_ne_ok fun _ => nofun
  · rename_i action
    exact .answered h (other action nofun) nofun
  · rename_i source action
    unfold describe
    split
    · exact .answered h (other action nofun) nofun
    · exact .describes h action
  · rename_i action
    unfold reloadCatalog
    split
    · rename_i catalog eq
      exact .reloaded h action eq
    · exact .answered h (other action nofun) nofun
  · rename_i action
    exact .answered h (other action nofun) nofun

theorem stepVisit_move {g : Gateway σ} (failing : List StoreOperation) {id : Nat} {v : Visit}
    (h : g.visits[id]? = some v) : VisitMove g failing id v (g.stepVisit failing id) := by
  unfold stepVisit
  rw [h]
  cases hs : v.stage with
  | entering => simpa only [hs] using g.enter_move failing id hs
  | preparing => simpa only [hs] using g.prepare_move failing id hs
  | fetching call =>
    simp only [hs]
    split
    · rename_i result returned
      exact .served hs returned
    · exact .stays
  | describing source engine deadline => simpa only [hs] using VisitMove.stays
  | done answer => simpa only [hs] using VisitMove.stays
  | cancelled => simpa only [hs] using VisitMove.stays

theorem stepVisit_of_plan {g : Gateway σ} (failing : List StoreOperation) {id : Nat} {v : Visit}
    {request : Request} {d : Dataset} {p : Plan} (h : g.visits[id]? = some v)
    (preparing : v.stage = .preparing) (action : v.action = .query request)
    (plan : g.plan v.caller request = .ok (d, p)) :
    g.stepVisit failing id =
      ({ g with cache := g.cache.arrive (g.requestFor v d p) }).setVisit id
        (.fetching g.cache.calls.length) := by
  simp only [stepVisit, h, preparing, prepare, action, fetch, plan]
  rfl

/-! ## other events -/

omit [SharedStore σ String] in
theorem cancelVisit_cases (g : Gateway σ) (id : Nat) :
    g.cancelVisit id = g ∨ g.cancelVisit id = g.setVisit id .cancelled ∨ ∃ call,
      g.cancelVisit id =
        { g.setVisit id .cancelled with cache := g.cache.cancel call }.dropDispatches := by
  unfold cancelVisit
  split
  · exact .inl rfl
  · split
    · simp only
      split
      · exact .inr (.inr ⟨_, rfl⟩)
      · exact .inr (.inl rfl)
    · exact .inl rfl

/-- A visit has asked a source for its tables. -/
def Describes (g : Gateway σ) (id : Nat) : Prop :=
  ∃ v source engine deadline, g.visits[id]? = some v ∧ v.stage = .describing source engine deadline

omit [SharedStore σ String] in
theorem answerVisit_cases (g : Gateway σ) (id : Nat)
    (outcome : Except SourceError (List TableSchema)) :
    g.answerVisit id outcome = g ∨ g.Describes id ∧ ∃ answer,
      (∀ result, answer ≠ .ok (.result result)) ∧
        g.answerVisit id outcome = g.finish id answer := by
  unfold answerVisit
  split
  · exact .inl rfl
  · rename_i v hv
    split
    · rename_i source engine deadline describing
      refine .inr ⟨⟨v, source, engine, deadline, hv, describing⟩, _, fun _ => ?_, rfl⟩
      exact map_ne_ok fun _ => nofun
    · exact .inl rfl

omit [SharedStore σ String] in
theorem expireVisit_cases (g : Gateway σ) (id : Nat) :
    g.expireVisit id = g ∨ g.Describes id ∧ ∃ e, g.expireVisit id = g.finish id (.error e) := by
  unfold expireVisit
  split
  · exact .inl rfl
  · rename_i v hv
    split
    · rename_i source engine deadline describing
      split
      · exact .inr ⟨⟨v, source, engine, deadline, hv, describing⟩, _, rfl⟩
      · exact .inl rfl
    · exact .inl rfl

theorem replaceCatalog_cases (g : Gateway σ) (datasets : List Dataset) :
    g.step (.replaceCatalog datasets) = g ∨ ∃ catalog,
      g.catalog.replace datasets = .ok catalog ∧
      g.step (.replaceCatalog datasets) = { g with catalog } := by
  cases eq : g.catalog.replace datasets with
  | error e => exact .inl (by simp [step, replaceCatalog, eq])
  | ok catalog => exact .inr ⟨catalog, rfl, by simp [step, replaceCatalog, eq]⟩

omit [SharedStore σ String] in
theorem startJob_cases (g : Gateway σ) (runner : Runner) :
    g.startJob runner = g ∨ ∃ job, g.cache.job? runner = some job ∧ g.startJob runner = g.settle
      runner (.start g.engines job.source job.sql (job.deadline.sub g.now.clock) g.now.clock) := by
  unfold startJob
  split
  · rename_i job _ runs
    exact .inr ⟨job, runs, rfl⟩
  · exact .inl rfl

omit [SharedStore σ String] in
theorem answerJob_cases (g : Gateway σ) (runner : Runner) (outcome : Except SourceError RowSet) :
    g.answerJob runner outcome = g ∨ ∃ d, g.dispatch? runner = some d ∧
      g.answerJob runner outcome = g.settle runner (d.answer g.now.clock outcome) := by
  unfold answerJob
  split
  · rename_i d hd
    exact .inr ⟨d, hd, rfl⟩
  · exact .inl rfl

omit [SharedStore σ String] in
theorem expireJob_cases (g : Gateway σ) (runner : Runner) :
    g.expireJob runner = g ∨ ∃ d, g.dispatch? runner = some d ∧
      g.expireJob runner = g.settle runner (d.expire g.now.clock) := by
  unfold expireJob
  split
  · rename_i d hd
    exact .inr ⟨d, hd, rfl⟩
  · exact .inl rfl

omit [SharedStore σ String] in
theorem mem_of_dispatch? {g : Gateway σ} {runner : Runner} {d : Dispatch}
    (h : g.dispatch? runner = some d) : (runner, d) ∈ g.dispatches := by
  obtain ⟨⟨runner', d'⟩, found, rfl⟩ := Option.map_eq_some_iff.1 h
  have same : runner' = runner := by simpa using List.find?_some found
  exact same ▸ List.mem_of_find?_eq_some found

omit [SharedStore σ String] in
/-- Only the statement that is settled may be new. -/
theorem mem_dispatches_settle {g : Gateway σ} {runner : Runner} {d : Dispatch}
    {entry : Runner × Dispatch} (h : entry ∈ (g.settle runner d).dispatches) :
    entry ∈ g.dispatches ∨ entry = (runner, d) := by
  unfold settle at h
  split at h
  · exact .inl (List.mem_of_mem_filter h)
  · rcases List.mem_cons.1 h with same | h
    · exact .inr same
    · exact .inl (List.mem_of_mem_filter h)

/-! ## what an event does to the parts -/

/-- What an event does to the caches: the clock goes on, a visit asks for what it is to have, a step
of theirs, or a payment out of their store. -/
inductive CachesMove (g : Gateway σ) (event : GatewayEvent) : CacheCluster σ Job → Prop
  | ticks {now : Moment} : event = .tick now → CachesMove g event (g.cache.step (.tick now))
  | arrives {id : Nat} {v : Visit} {dataset : String} {d : Dataset} (p : Plan) :
    g.visits[id]? = some v → g.catalog.current.get? dataset = some d →
      CachesMove g event (g.cache.step (.arrive (g.requestFor v d p)))
  | steps {e : CacheEvent Job} : (∀ r, e ≠ .arrive r) → (∀ now, e ≠ .tick now) →
    CachesMove g event (g.cache.step e)
  | pays {failing : List StoreOperation} {caller : Caller} {route : Route} :
    CachesMove g event (g.pay failing caller route).2.cache
  | stays : CachesMove g event g.cache

omit [SharedStore σ String] in
theorem dataset_of_plan {g : Gateway σ} {caller : Caller} {request : Request} {d : Dataset}
    {p : Plan} (h : g.plan caller request = .ok (d, p)) :
    g.catalog.current.get? request.dataset = some d := by
  unfold plan at h
  split at h
  · cases h
  · rename_i found
    obtain ⟨p', -, h⟩ := bind_eq_ok.1 h
    cases h
    exact found

theorem cache_pay {g paid : Gateway σ} {failing : List StoreOperation} {caller : Caller}
    {route : Route} {answer : Except GatewayError Unit}
    (h : g.pay failing caller route = (answer, paid)) :
    paid.cache = (g.pay failing caller route).2.cache := by rw [h]

theorem cachesMove_stepVisit (g : Gateway σ) (failing : List StoreOperation) (id : Nat) :
    g.CachesMove (.stepVisit id failing) (g.stepVisit failing id).cache := by
  cases hv : g.visits[id]? with
  | none =>
    rw [stepVisit, hv]
    exact .stays
  | some v =>
    have move := stepVisit_move failing hv
    generalize g.stepVisit failing id = g' at move
    cases move with
    | @planned request d p _ _ plan => exact .arrives p hv (dataset_of_plan plan)
    | admitted _ _ _ eq | denied _ _ _ eq => exact cache_pay eq ▸ .pays
    | _ => exact .stays

theorem cachesMove_settle (g : Gateway σ) (event : GatewayEvent) (runner : Runner) (d : Dispatch) :
    g.CachesMove event (g.settle runner d).cache := by
  unfold settle
  split
  · exact .steps (e := .complete runner _) nofun nofun
  · exact .stays

theorem cachesMove_step (g : Gateway σ) (event : GatewayEvent) :
    g.CachesMove event (g.step event).cache := by
  cases event with
  | tick now => exact .ticks rfl
  | visit process caller action => exact .stays
  | stepVisit id failing => exact g.cachesMove_stepVisit failing id
  | cancelVisit id =>
    rw [step]
    rcases g.cancelVisit_cases id with eq | eq | ⟨call, eq⟩ <;> rw [eq]
    · exact .stays
    · exact .stays
    · exact .steps (e := .cancel call) nofun nofun
  | stepCall id failing => exact .steps (e := .stepCall id failing) nofun nofun
  | stepFlight id failing => exact .steps (e := .stepFlight id failing) nofun nofun
  | releaseAbandoned failing => exact .steps (e := .releaseAbandoned failing) nofun nofun
  | purge failing => exact .steps (e := .purge failing) nofun nofun
  | startJob runner =>
    rw [step]
    rcases g.startJob_cases runner with eq | ⟨job, -, eq⟩ <;> rw [eq]
    · exact .stays
    · exact g.cachesMove_settle _ runner _
  | answerJob runner outcome =>
    rw [step]
    rcases g.answerJob_cases runner outcome with eq | ⟨d, -, eq⟩ <;> rw [eq]
    · exact .stays
    · exact g.cachesMove_settle _ runner _
  | expireJob runner =>
    rw [step]
    rcases g.expireJob_cases runner with eq | ⟨d, -, eq⟩ <;> rw [eq]
    · exact .stays
    · exact g.cachesMove_settle _ runner _
  | answerVisit id outcome =>
    rw [step]
    rcases g.answerVisit_cases id outcome with eq | ⟨-, answer, -, eq⟩ <;> rw [eq] <;> exact .stays
  | expireVisit id =>
    rw [step]
    rcases g.expireVisit_cases id with eq | ⟨-, e, eq⟩ <;> rw [eq] <;> exact .stays
  | replaceCatalog datasets =>
    rcases g.replaceCatalog_cases datasets with eq | ⟨catalog, -, eq⟩ <;> rw [eq] <;> exact .stays
  | writeFile text => exact .stays

/-- The clock goes on when it is told to. -/
theorem now_step (g : Gateway σ) (event : GatewayEvent) :
    (g.step event).now = g.now ∨ event = .tick (g.step event).now := by
  have move := g.cachesMove_step event
  rw [now]
  generalize (g.step event).cache = cache at move
  cases move with
  | ticks eq => exact .inr eq
  | @steps e _ still =>
    refine .inl ((g.cache.step_now e).trans ?_)
    cases e with
    | tick now => exact absurd rfl (still now)
    | _ => rfl
  | arrives _ _ _ | pays | stays => exact .inl rfl

omit [SharedStore σ String] in
theorem settings_settle (g : Gateway σ) (runner : Runner) (d : Dispatch) :
    (g.settle runner d).settings = g.settings := by
  unfold settle
  split <;> rfl

theorem settings_stepVisit (g : Gateway σ) (failing : List StoreOperation) (id : Nat) :
    (g.stepVisit failing id).settings = g.settings := by
  cases hv : g.visits[id]? with
  | none => rw [stepVisit, hv]
  | some v =>
    have move := stepVisit_move failing hv
    generalize g.stepVisit failing id = g' at move
    cases move with
    | admitted _ _ _ eq | denied _ _ _ eq => exact (congrArg (·.2.settings) eq).symm
    | _ => rfl

theorem dispatches_stepVisit (g : Gateway σ) (failing : List StoreOperation) (id : Nat) :
    (g.stepVisit failing id).dispatches = g.dispatches := by
  cases hv : g.visits[id]? with
  | none => rw [stepVisit, hv]
  | some v =>
    have move := stepVisit_move failing hv
    generalize g.stepVisit failing id = g' at move
    cases move with
    | admitted _ _ _ eq | denied _ _ _ eq => exact (congrArg (·.2.dispatches) eq).symm
    | _ => rfl

theorem settings_step (g : Gateway σ) (event : GatewayEvent) :
    (g.step event).settings = g.settings := by
  cases event with
  | stepVisit id failing => exact g.settings_stepVisit failing id
  | cancelVisit id =>
    rw [step]
    rcases g.cancelVisit_cases id with eq | eq | ⟨call, eq⟩ <;> rw [eq] <;> rfl
  | startJob runner =>
    rw [step]
    rcases g.startJob_cases runner with eq | ⟨job, -, eq⟩ <;> rw [eq]
    exact settings_settle ..
  | answerJob runner outcome =>
    rw [step]
    rcases g.answerJob_cases runner outcome with eq | ⟨d, -, eq⟩ <;> rw [eq]
    exact settings_settle ..
  | expireJob runner =>
    rw [step]
    rcases g.expireJob_cases runner with eq | ⟨d, -, eq⟩ <;> rw [eq]
    exact settings_settle ..
  | answerVisit id outcome =>
    rw [step]
    rcases g.answerVisit_cases id outcome with eq | ⟨-, answer, -, eq⟩ <;> rw [eq]
    rfl
  | expireVisit id =>
    rw [step]
    rcases g.expireVisit_cases id with eq | ⟨-, e, eq⟩ <;> rw [eq]
    rfl
  | replaceCatalog datasets =>
    rcases g.replaceCatalog_cases datasets with eq | ⟨catalog, -, eq⟩ <;> rw [eq]
  | _ => rfl

/-! ## runs -/

theorem run_append (start : Gateway σ) (events later : List GatewayEvent) :
    start.run (events ++ later) = (start.run events).run later := List.foldl_append

theorem run_concat (start : Gateway σ) (events : List GatewayEvent) (event : GatewayEvent) :
    start.run (events ++ [event]) = (start.run events).step event := run_append ..

end Gateway

end AnalyticsGateway
