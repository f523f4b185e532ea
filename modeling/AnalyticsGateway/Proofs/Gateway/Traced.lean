import AnalyticsGateway.Proofs.Cache.Provenance
import AnalyticsGateway.Proofs.Gateway.History
import AnalyticsGateway.Proofs.Gateway.Moves
import AnalyticsGateway.Proofs.RateLimit.Call
import AnalyticsGateway.Proofs.Source.Dispatch
import Mathlib.Data.List.Induction

/-!
# Where the results of visits come from

Every result that a visit ends with consists of rows that a source has returned for a query of the
same key, whichever visit, process and catalog that query came from (`Traced`). The invariant is
that of the caches, with what holds of the statements on their way and of the visits.
-/

namespace AnalyticsGateway

open SharedStore LawfulStore

/-! ## what a history tells of its cache -/

variable {σ : Type} [SharedStore σ String] [LawfulStore σ]

namespace Gateway

variable {start : Gateway σ} {history later : List (Happening σ)}

/-- What has been asked and run for each key. -/
def cacheHistory (start : Gateway σ) (history : List (Happening σ)) : CacheHistory Job where
  Asked key job := ∃ visit caller d p, Planned start history visit caller d p ∧ p.key = key ∧
    job.source = d.source ∧ job.sql = p.sql
  Ran key rows := ∃ visit caller d p, Planned start history visit caller d p ∧ p.key = key ∧
    Executed start history d.source p.sql.text rows
  owns := by
    rintro key job ⟨visit, caller, d, p, planned, rfl, -⟩
    rw [planned.key_eq, CacheKey.Owns, String.toList_append, String.toList_append,
      List.append_assoc]
    exact List.prefix_append ..

theorem cacheHistory_le (longer : history <+: later) :
    (cacheHistory start history).Le (cacheHistory start later) where
  asked := fun ⟨visit, caller, d, p, planned, rest⟩ =>
    ⟨visit, caller, d, p, planned.mono longer, rest⟩
  ran := fun ⟨visit, caller, d, p, planned, key, executed⟩ =>
    ⟨visit, caller, d, p, planned.mono longer, key, executed.mono longer⟩

end Gateway

/-! ## the invariant -/

/-- A stage without a call and without rows. -/
def VisitStage.IsPlain : VisitStage → Prop
  | fetching _ | done (.ok (.result _)) => False
  | _ => True

/-- Statements are on their way for jobs of runners, and visits have the rows of their plans. -/
structure Traced (start : Gateway σ) (history : List (Happening σ)) (g : Gateway σ) : Prop where
  cache : Provenance (Gateway.cacheHistory start history) g.cache
  dispatched : ∀ {runner : Runner} {d : Dispatch}, (runner, d) ∈ g.dispatches →
    ∃ r, g.cache.request? runner = some r ∧ d.IsFor r.job
  fetching : ∀ {id call : Nat} {v : Visit}, g.visits[id]? = some v → v.stage = .fetching call →
    ∃ r d p, g.cache.request? (.call call) = some r ∧
      Gateway.Planned start history id v.caller d p ∧ p.key = r.key
  done : ∀ {id : Nat} {v : Visit} {result : QueryResult}, g.visits[id]? = some v →
    v.stage = .done (.ok (.result result)) →
      ∃ d p, Gateway.Planned start history id v.caller d p ∧
        (Gateway.cacheHistory start history).Yields p.key result.rows

namespace Traced

variable {start g : Gateway σ} {history later : List (Happening σ)}

theorem mono (inv : Traced start history g) (longer : history <+: later) :
    Traced start later g where
  cache := inv.cache.mono (Gateway.cacheHistory_le longer)
  dispatched := inv.dispatched
  fetching hv stage := by
    obtain ⟨r, d, p, hr, planned, key⟩ := inv.fetching hv stage
    exact ⟨r, d, p, hr, planned.mono longer, key⟩
  done hv stage := by
    obtain ⟨d, p, planned, yields⟩ := inv.done hv stage
    exact ⟨d, p, planned.mono longer, yields.mono (Gateway.cacheHistory_le longer)⟩

/-! ## changes of a part -/

theorem withCache (inv : Traced start history g) {cache : CacheCluster σ Job}
    (founded : Provenance (Gateway.cacheHistory start history) cache)
    (requests : g.cache.RequestsIn cache) : Traced start history { g with cache } where
  cache := founded
  dispatched hd := by
    obtain ⟨r, hr, isFor⟩ := inv.dispatched hd
    exact ⟨r, requests _ _ hr, isFor⟩
  fetching hv stage := by
    obtain ⟨r, d, p, hr, rest⟩ := inv.fetching hv stage
    exact ⟨r, d, p, requests _ _ hr, rest⟩
  done := inv.done

/-- Nothing else of a gateway counts. -/
theorem of_eq (inv : Traced start history g) {g' : Gateway σ} (cache : g'.cache = g.cache)
    (dispatches : g'.dispatches = g.dispatches) (visits : g'.visits = g.visits) :
    Traced start history g' := by
  constructor
  · rw [cache]
    exact inv.cache
  · rw [cache, dispatches]
    exact inv.dispatched
  · rw [cache, visits]
    exact inv.fetching
  · rw [visits]
    exact inv.done

theorem withDispatches (inv : Traced start history g) {dispatches : List (Runner × Dispatch)}
    (dispatched : ∀ {runner d}, (runner, d) ∈ dispatches →
      ∃ r, g.cache.request? runner = some r ∧ d.IsFor r.job) :
    Traced start history { g with dispatches } :=
  ⟨inv.cache, dispatched, inv.fetching, inv.done⟩

theorem dropDispatches (inv : Traced start history g) : Traced start history g.dropDispatches :=
  inv.withDispatches fun hd => inv.dispatched (List.mem_of_mem_filter hd)

theorem setVisit (inv : Traced start history g) (id : Nat) {stage : VisitStage}
    (fetching : ∀ v call, g.visits[id]? = some v → stage = .fetching call →
      ∃ r d p, g.cache.request? (.call call) = some r ∧
        Gateway.Planned start history id v.caller d p ∧ p.key = r.key)
    (done : ∀ v result, g.visits[id]? = some v → stage = .done (.ok (.result result)) →
      ∃ d p, Gateway.Planned start history id v.caller d p ∧
        (Gateway.cacheHistory start history).Yields p.key result.rows) :
    Traced start history (g.setVisit id stage) where
  cache := inv.cache
  dispatched := inv.dispatched
  fetching hv eq := by
    rcases Gateway.of_setVisit hv with ⟨-, hv⟩ | ⟨rfl, old, hold, rfl⟩
    · exact inv.fetching hv eq
    · exact fetching old _ hold eq
  done hv eq := by
    rcases Gateway.of_setVisit hv with ⟨-, hv⟩ | ⟨rfl, old, hold, rfl⟩
    · exact inv.done hv eq
    · exact done old _ hold eq

theorem goOn (inv : Traced start history g) (id : Nat) {stage : VisitStage}
    (plain : stage.IsPlain) : Traced start history (g.setVisit id stage) := by
  refine inv.setVisit id (fun _ call _ eq => ?_) fun _ result _ eq => ?_
  · subst eq
    exact plain.elim
  · subst eq
    exact plain.elim

theorem finish (inv : Traced start history g) (id : Nat) {answer : Except GatewayError Answer}
    (plain : ∀ result, answer ≠ .ok (.result result)) :
    Traced start history (g.finish id answer) := by
  refine inv.setVisit id (fun _ call _ eq => ?_) fun _ result _ eq => ?_
  · cases eq
  · exact absurd (VisitStage.done.inj eq) (plain result)

theorem fail (inv : Traced start history g) (id : Nat) (e : GatewayError) :
    Traced start history (g.finish id (.error e)) := inv.goOn id trivial

/-! ## statements -/

theorem complete (inv : Traced start history g) {runner : Runner}
    {result : Except GatewayError RowSet}
    (ran : ∀ r rows, g.cache.request? runner = some r → result = .ok rows →
      (Gateway.cacheHistory start history).Ran r.key rows) :
    Traced start history { g with cache := g.cache.complete runner result }.dropDispatches :=
  (inv.withCache (inv.cache.complete ran) (CacheCluster.requestsIn_complete _ _ _)).dropDispatches

theorem settle (inv : Traced start history g) {runner : Runner} {r : CacheRequest Job}
    (hr : g.cache.request? runner = some r) {d : Dispatch}
    (outlook : d.Outlook r.job fun rows => (Gateway.cacheHistory start history).Ran r.key rows) :
    Traced start history (g.settle runner d) := by
  unfold Gateway.settle
  cases outlook with
  | failed eq =>
    rw [eq]
    exact inv.complete nofun
  | @returned rows eq ran =>
    rw [eq]
    refine inv.complete fun r' rows' hr' eq => ?_
    cases hr.symm.trans hr'
    cases eq
    exact ran
  | waits eq isFor =>
    rw [eq]
    refine inv.withDispatches fun hd => ?_
    rcases List.mem_cons.1 hd with same | hd
    · cases same
      exact ⟨r, hr, isFor⟩
    · exact inv.dispatched (List.mem_of_mem_filter hd)

theorem of_dispatch? (inv : Traced start history g) {runner : Runner} {d : Dispatch}
    (h : g.dispatch? runner = some d) :
    ∃ r, g.cache.request? runner = some r ∧ d.IsFor r.job := by
  obtain ⟨⟨runner', d'⟩, found, rfl⟩ := Option.map_eq_some_iff.1 h
  have same : runner' = runner := by simpa using List.find?_some found
  exact inv.dispatched (same ▸ List.mem_of_find?_eq_some found)

theorem startJob (inv : Traced start history g) (runner : Runner) :
    Traced start history (g.startJob runner) := by
  unfold Gateway.startJob
  split
  · rename_i job _ known
    obtain ⟨r, hr, rfl⟩ := CacheCluster.request?_of_job? known
    exact inv.settle hr (Dispatch.outlook_start ..)
  · exact inv

theorem expireJob (inv : Traced start history g) (runner : Runner) :
    Traced start history (g.expireJob runner) := by
  unfold Gateway.expireJob
  split
  · rename_i d known
    obtain ⟨r, hr, isFor⟩ := inv.of_dispatch? known
    exact inv.settle hr (isFor.expire _)
  · exact inv

/-- An answer of a source is told by the history. -/
theorem answerJob (inv : Traced start history g) {runner : Runner}
    {outcome : Except SourceError RowSet}
    (told : ∀ d rows, outcome = .ok rows → g.dispatch? runner = some d →
      (∃ again, d.stage = .calling again) → Gateway.Executed start history d.source d.sql rows) :
    Traced start history (g.answerJob runner outcome) := by
  unfold Gateway.answerJob
  split
  · rename_i d known
    obtain ⟨r, hr, isFor⟩ := inv.of_dispatch? known
    refine inv.settle hr (isFor.answer _ fun rows eq => ?_)
    obtain ⟨visit, caller, dataset, p, planned, key, source, sql⟩ := inv.cache.asked_request hr
    have executed := told d rows eq known isFor.1
    rw [isFor.2.1, isFor.2.2, source, sql] at executed
    exact ⟨visit, caller, dataset, p, planned, key, executed⟩
  · exact inv

/-! ## visits -/

theorem pay (inv : Traced start history g) (failing : List StoreOperation) (caller : Caller)
    (route : Route) : Traced start history (g.pay failing caller route).2 := by
  refine inv.withCache ?_ (CacheCluster.requestsIn_of_eq rfl rfl)
  refine inv.cache.attempt ⟨g.now, failing⟩ .update fun {key text expiry} own record => ?_
  rcases record?_update g.now (RateLimiter.bucketKey route caller.keyId) _ _ g.cache.store key.entry
    with same | ⟨bucket, -⟩
  · exact same ▸ record
  · exact absurd (CacheKey.owns_entry own) (bucket ▸ not_owns_bucketKey route caller.keyId)

theorem paid {paid : Gateway σ} (inv : Traced start history g) {failing : List StoreOperation}
    {caller : Caller} {route : Route} {answer : Except GatewayError Unit}
    (h : g.pay failing caller route = (answer, paid)) : Traced start history paid := by
  have after := inv.pay failing caller route
  rwa [h] at after

theorem arrive (inv : Traced start history g) {id : Nat} {v : Visit} {d : Dataset} {p : Plan}
    (hv : g.visits[id]? = some v) (planned : Gateway.Planned start history id v.caller d p) :
    Traced start history
      (({ g with cache := g.cache.arrive (g.requestFor v d p) }).setVisit id
        (.fetching g.cache.calls.length)) := by
  have arrived : Traced start history { g with cache := g.cache.arrive (g.requestFor v d p) } :=
    inv.withCache (inv.cache.arrive ⟨id, v.caller, d, p, planned, rfl, rfl, rfl⟩)
      (CacheCluster.requestsIn_withCall _ _)
  refine arrived.setVisit id (fun v' call hv' eq => ?_) fun _ _ _ eq => nomatch eq
  cases hv.symm.trans hv'
  cases eq
  exact ⟨g.requestFor v d p, d, p, g.cache.request?_arrive _, planned, rfl⟩

/-- What a visit is served are rows for the key of its plan. -/
theorem serve (inv : Traced start history g) {id call : Nat} {v : Visit}
    {result : Except GatewayError QueryResult} (hv : g.visits[id]? = some v)
    (fetching : v.stage = .fetching call)
    (returned : (g.cache.calls[call]?.bind fun call => call.stage.result?) = some result) :
    Traced start history (g.finish id (result.map .result)) := by
  refine inv.setVisit id (fun _ _ _ eq => nomatch eq) fun v' answer hv' eq => ?_
  cases hv.symm.trans hv'
  obtain ⟨r, d, p, hr, planned, key⟩ := inv.fetching hv fetching
  have rows : result = .ok answer := by
    cases result with
    | error e => cases eq
    | ok other =>
      cases eq
      rfl
  rw [rows] at returned
  exact ⟨d, p, planned, key ▸ inv.cache.yields_result hr returned⟩

/-- A plan that a visit makes is told by the history. -/
theorem stepVisit (inv : Traced start history g) (failing : List StoreOperation) {id : Nat}
    (told : ∀ v request d p, g.visits[id]? = some v → v.stage = .preparing →
      v.action = .query request → g.plan v.caller request = .ok (d, p) →
        Gateway.Planned start history id v.caller d p) :
    Traced start history (g.stepVisit failing id) := by
  cases hv : g.visits[id]? with
  | none => rwa [Gateway.stepVisit, hv]
  | some v =>
    have move := Gateway.stepVisit_move failing hv
    generalize g.stepVisit failing id = g' at move
    cases move with
    | free _ _ _ => exact inv.goOn id trivial
    | admitted _ _ _ eq => exact (inv.paid eq).goOn id trivial
    | denied _ _ _ eq => exact (inv.paid eq).fail id _
    | planned preparing action plan =>
      exact inv.arrive hv (told v _ _ _ hv preparing action plan)
    | @reloaded catalog _ _ _ =>
      have reloaded : Traced start history { g with catalog } := inv.of_eq rfl rfl rfl
      exact reloaded.goOn id trivial
    | describes _ _ => exact inv.goOn id trivial
    | refused _ _ | unplanned _ _ _ => exact inv.fail id _
    | answered _ _ plain => exact inv.finish id plain
    | served fetching returned => exact inv.serve hv fetching returned
    | stays => exact inv

theorem cancelVisit (inv : Traced start history g) (id : Nat) :
    Traced start history (g.cancelVisit id) := by
  have cancelled : Traced start history (g.setVisit id .cancelled) := inv.goOn id trivial
  rcases g.cancelVisit_cases id with eq | eq | ⟨call, eq⟩ <;> rw [eq]
  · exact inv
  · exact cancelled
  · exact (cancelled.withCache (cancelled.cache.cancel call)
      (CacheCluster.requestsIn_cancel _ call)).dropDispatches

theorem answerVisit (inv : Traced start history g) (id : Nat)
    (outcome : Except SourceError (List TableSchema)) :
    Traced start history (g.answerVisit id outcome) := by
  rcases g.answerVisit_cases id outcome with eq | ⟨-, answer, plain, eq⟩ <;> rw [eq]
  · exact inv
  · exact inv.finish id plain

theorem expireVisit (inv : Traced start history g) (id : Nat) :
    Traced start history (g.expireVisit id) := by
  rcases g.expireVisit_cases id with eq | ⟨-, e, eq⟩ <;> rw [eq]
  · exact inv
  · exact inv.fail id e

/-! ## runs -/

theorem initial (settings : GatewaySettings) (engines : Engines) (catalog : Catalog)
    (processes : Nat) (now : Moment) {store : σ}
    (unwritten : ∀ k, CacheKey.Owns k → record? store k = none) :
    Traced (.start settings engines catalog processes now store) []
      (.start settings engines catalog processes now store) :=
  ⟨.fresh settings.lease processes now unwritten, nofun, nofun, nofun⟩

/-- Another clock or another setting changes nothing. -/
theorem withTime (inv : Traced start history g) (now : Moment) (settings : LeaseSettings) :
    Traced start history { g with cache := { g.cache with now, settings } } :=
  inv.withCache (inv.cache.of_store_eq (inv.cache.of_eq rfl rfl fun _ => rfl) rfl)
    (CacheCluster.requestsIn_of_eq rfl rfl)

theorem visit (inv : Traced start history g) (process : Nat) (caller : Caller) (action : Action) :
    Traced start history (g.visit process caller action) where
  cache := inv.cache
  dispatched := inv.dispatched
  fetching hv stage := by
    rcases of_concat hv with hv | ⟨-, rfl⟩
    · exact inv.fetching hv stage
    · cases stage
  done hv stage := by
    rcases of_concat hv with hv | ⟨-, rfl⟩
    · exact inv.done hv stage
    · cases stage

theorem undergo (inv : Traced start history (start.after history)) (happening : Happening σ) :
    Traced start (history ++ [happening]) (start.after (history ++ [happening])) := by
  rw [Gateway.after_concat]
  have inv := inv.mono (List.prefix_append history [happening])
  cases happening with
  | configure settings engines catalog file =>
    exact (inv.withTime (start.after history).now settings.lease).of_eq rfl rfl rfl
  | interfere others =>
    exact inv.withCache (inv.cache.of_records (inv.cache.withStore _) fun own record =>
      .inl (others.apart (CacheKey.owns_entry own) record)) (CacheCluster.requestsIn_of_eq rfl rfl)
  | event event =>
    cases event with
    | tick now => exact inv.withTime now (start.after history).cache.settings
    | visit process caller action => exact inv.visit process caller action
    | stepVisit id failing =>
      exact inv.stepVisit failing fun v request d p hv preparing action plan =>
        ⟨history, failing, v, request, List.prefix_refl _, hv, preparing, action, rfl, plan⟩
    | cancelVisit id => exact inv.cancelVisit id
    | stepCall id failing =>
      exact inv.withCache (inv.cache.stepCall failing id)
        (CacheCluster.requestsIn_stepCall _ failing id)
    | stepFlight id failing =>
      exact inv.withCache (inv.cache.stepFlight failing id)
        (CacheCluster.requestsIn_stepFlight _ failing id)
    | releaseAbandoned failing =>
      exact inv.withCache (inv.cache.releaseAbandoned failing)
        (CacheCluster.requestsIn_step _ (.releaseAbandoned failing))
    | purge failing =>
      exact inv.withCache (inv.cache.purge failing) (CacheCluster.requestsIn_of_eq rfl rfl)
    | startJob runner => exact inv.startJob runner
    | answerJob runner outcome =>
      refine inv.answerJob fun d rows eq known working => ?_
      obtain ⟨again, working⟩ := working
      subst eq
      exact ⟨history, runner, d, again, List.prefix_refl _, known, working, rfl, rfl⟩
    | expireJob runner => exact inv.expireJob runner
    | answerVisit id outcome => exact inv.answerVisit id outcome
    | expireVisit id => exact inv.expireVisit id
    | replaceCatalog datasets =>
      rcases (start.after history).replaceCatalog_cases datasets with eq | ⟨catalog, -, eq⟩ <;>
        rw [Gateway.undergo, eq]
      · exact inv
      · exact inv.of_eq rfl rfl rfl
    | writeFile text => exact inv.of_eq rfl rfl rfl

/-- Whatever happens to a gateway whose cache starts without records, results can be traced. -/
theorem after (settings : GatewaySettings) (engines : Engines) (catalog : Catalog)
    (processes : Nat) (now : Moment) {store : σ}
    (unwritten : ∀ k, CacheKey.Owns k → record? store k = none) (history : List (Happening σ)) :
    Traced (.start settings engines catalog processes now store) history
      ((Gateway.start settings engines catalog processes now store).after history) := by
  induction history using List.reverseRecOn with
  | nil => exact .initial settings engines catalog processes now unwritten
  | append_singleton history happening ih => exact ih.undergo happening

end Traced

end AnalyticsGateway
