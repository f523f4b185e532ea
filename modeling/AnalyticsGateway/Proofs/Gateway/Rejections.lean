import AnalyticsGateway.Proofs.Cache.Founded
import AnalyticsGateway.Proofs.Gateway.Isolation
import AnalyticsGateway.Proofs.Gateway.Visits
import AnalyticsGateway.Proofs.RateLimit.Call
import Mathlib.Logic.Relation

/-!
# Requests that are turned away

A query may be turned away before its rows are asked for: it gets no token, or no plan can be made
of it. No job ends with such an error (`Undenying`), so a query that ends with one has never had a
call in the cache (`Action.Leads.of_denied`), and all that it has done is to take its token
(`turned_away_traceless`). The same goes for a request to show a plan, whatever comes of it.
-/

namespace AnalyticsGateway

open LawfulStore Relation

/-! ## errors of jobs -/

/-- Whether a query is turned away before its rows are asked for. -/
def GatewayError.denies (e : GatewayError) : Bool := e.deniesEntry || e.deniesPlan

/-- It is not by this result that a query is turned away. -/
def Undenied {α : Type} (result : Except GatewayError α) : Prop :=
  ∀ e, result = .error e → ¬e.denies

theorem undenied_map {α β : Type} {result : Except GatewayError α} (f : α → β) :
    Undenied (result.map f) ↔ Undenied result := by
  cases result with
  | error e => simp only [Undenied, Except.map, Except.error.injEq]
  | ok a => exact ⟨fun _ => nofun, fun _ => nofun⟩

theorem undenied_error {α : Type} {e : GatewayError} (h : e.denies = false) :
    Undenied (.error e : Except GatewayError α) := by
  rintro _ ⟨⟩
  simp [h]

namespace Dispatch

def IsUndenied (d : Dispatch) : Prop := ∀ result, d.result? = some result → Undenied result

theorem isUndenied_of_calling {d : Dispatch} {again : Bool} (stage : d.stage = .calling again) :
    d.IsUndenied := by
  intro result h
  rw [result?, stage] at h
  cases h

theorem isUndenied_of_done {d : Dispatch} {result : Except GatewayError RowSet}
    (stage : d.stage = .done result) (undenied : Undenied result) : d.IsUndenied := by
  intro other h
  rw [result?, stage] at h
  cases h
  exact undenied

theorem isUndenied_call (d : Dispatch) (now : Instant) (again : Bool) :
    (d.call now again).IsUndenied := by
  unfold call
  split
  · exact isUndenied_of_done rfl (undenied_error rfl)
  · exact isUndenied_of_calling rfl

theorem isUndenied_start (engines : Engines) (source : String) (sql : Sql.Rendered)
    (timeout : Duration) (now : Instant) :
    (start engines source sql timeout now).IsUndenied := by
  rcases start_cases engines source sql timeout now with ⟨e, rfl | ⟨_, rfl⟩, eq⟩ | eq <;> rw [eq]
  · exact isUndenied_of_done rfl (undenied_error rfl)
  · exact isUndenied_of_done rfl (undenied_error rfl)
  · exact isUndenied_call _ _ _

theorem IsUndenied.answer {d : Dispatch} (h : d.IsUndenied) (now : Instant)
    (outcome : Except SourceError RowSet) : (d.answer now outcome).IsUndenied := by
  have move := d.answer_move now outcome
  generalize d.answer now outcome = d' at move ⊢
  cases move with
  | ended _ _ =>
    cases outcome with
    | ok rows => exact isUndenied_of_done rfl nofun
    | error e => exact isUndenied_of_done rfl (undenied_error rfl)
  | called _ _ _ => exact isUndenied_call _ _ _
  | stays _ => exact h

theorem IsUndenied.expire {d : Dispatch} (h : d.IsUndenied) (now : Instant) :
    (d.expire now).IsUndenied := by
  unfold Dispatch.expire
  split
  · split
    · exact isUndenied_of_done rfl (undenied_error rfl)
    · exact h
  · exact h

end Dispatch

/-- What calls and flights have in hand is no error by which a query is turned away. -/
def undeniedResults : CacheFacts Job where
  Asked _ := True
  Publishes _ _ := True
  Lands _ result := Undenied result
  Serves _ result := Undenied result
  lands _ := nofun
  serves h := h

variable {σ : Type}

/-- No job and no statement on its way ends with an error by which a query is turned away. -/
structure Undenying (g : Gateway σ) : Prop where
  cache : Founded undeniedResults g.cache
  statements : ∀ {runner : Runner} {d : Dispatch}, (runner, d) ∈ g.dispatches → d.IsUndenied

namespace Undenying

variable {g : Gateway σ}

theorem of_eq (inv : Undenying g) {g' : Gateway σ} (cache : g'.cache = g.cache)
    (dispatches : g'.dispatches = g.dispatches) : Undenying g' where
  cache := cache ▸ inv.cache
  statements := dispatches ▸ inv.statements

theorem withCache (inv : Undenying g) {cache : CacheCluster σ Job}
    (founded : Founded undeniedResults cache) : Undenying { g with cache } where
  cache := founded
  statements := inv.statements

theorem dropDispatches (inv : Undenying g) : Undenying g.dropDispatches where
  cache := inv.cache
  statements h := inv.statements (List.mem_of_mem_filter h)

theorem returned (inv : Undenying g) {result : Except GatewayError QueryResult}
    (h : g.Returns result) : Undenied result := by
  obtain ⟨call, h⟩ := h
  obtain ⟨c, hc, result⟩ := Option.bind_eq_some_iff.1 h
  have founded := (inv.cache.calls hc).2
  rw [CallStage.result?_eq_some] at result
  rw [result] at founded
  exact (undenied_map _).1 founded

/-! ### steps -/

theorem settle (inv : Undenying g) (runner : Runner) {d : Dispatch} (h : d.IsUndenied) :
    Undenying (g.settle runner d) := by
  unfold Gateway.settle
  split
  · rename_i result ended
    have undenied := h result ended
    exact (inv.withCache (inv.cache.complete fun _ _ _ _ =>
      ⟨(undenied_map _).2 undenied, fun _ _ => trivial⟩)).dropDispatches
  · refine ⟨inv.cache, fun mem => ?_⟩
    rcases List.mem_cons.1 mem with same | mem
    · cases same
      exact h
    · exact inv.statements (List.mem_of_mem_filter mem)

theorem cancelVisit (inv : Undenying g) (id : Nat) : Undenying (g.cancelVisit id) := by
  have cancelled : Undenying (g.setVisit id .cancelled) := inv.of_eq rfl rfl
  rcases g.cancelVisit_cases id with eq | eq | ⟨call, eq⟩ <;> rw [eq]
  · exact inv
  · exact cancelled
  · exact (cancelled.withCache (inv.cache.cancel call)).dropDispatches

variable [SharedStore σ String]

theorem pay (inv : Undenying g) {paid : Gateway σ} {failing : List StoreOperation}
    {caller : Caller} {route : Route} {answer : Except GatewayError Unit}
    (h : g.pay failing caller route = (answer, paid)) : Undenying paid := by
  have same : Undenying (g.pay failing caller route).2 := inv.withCache (inv.cache.withStore _)
  rwa [h] at same

theorem stepVisit (inv : Undenying g) (failing : List StoreOperation) (id : Nat) :
    Undenying (g.stepVisit failing id) := by
  cases hv : g.visits[id]? with
  | none => rwa [Gateway.stepVisit, hv]
  | some v =>
    have move := Gateway.stepVisit_move failing hv
    generalize g.stepVisit failing id = g' at move
    cases move with
    | admitted _ _ _ eq | denied _ _ _ eq => exact (inv.pay eq).of_eq rfl rfl
    | planned _ _ _ => exact (inv.withCache (inv.cache.arrive trivial)).of_eq rfl rfl
    | stays => exact inv
    | _ => exact inv.of_eq rfl rfl

theorem step (inv : Undenying g) (event : GatewayEvent) : Undenying (g.step event) := by
  cases event with
  | tick now => exact inv.withCache (inv.cache.of_eq rfl rfl fun _ => rfl)
  | visit process caller action => exact inv.of_eq rfl rfl
  | stepVisit id failing => exact inv.stepVisit failing id
  | cancelVisit id => exact inv.cancelVisit id
  | stepCall id failing => exact inv.withCache (inv.cache.stepCall fun _ _ _ _ _ => nofun)
  | stepFlight id failing =>
    exact inv.withCache (inv.cache.stepFlight (fun _ _ _ _ _ => nofun)
      fun _ _ _ => undenied_error rfl)
  | releaseAbandoned failing => exact inv.withCache (inv.cache.releaseAbandoned failing)
  | purge failing => exact inv.withCache (inv.cache.of_eq rfl rfl fun _ => rfl)
  | startJob runner =>
    rw [Gateway.step]
    rcases g.startJob_cases runner with eq | ⟨job, -, eq⟩ <;> rw [eq]
    · exact inv
    · exact inv.settle runner (Dispatch.isUndenied_start _ _ _ _ _)
  | answerJob runner outcome =>
    rw [Gateway.step]
    rcases g.answerJob_cases runner outcome with eq | ⟨d, hd, eq⟩ <;> rw [eq]
    · exact inv
    · exact inv.settle runner ((inv.statements (Gateway.mem_of_dispatch? hd)).answer _ outcome)
  | expireJob runner =>
    rw [Gateway.step]
    rcases g.expireJob_cases runner with eq | ⟨d, hd, eq⟩ <;> rw [eq]
    · exact inv
    · exact inv.settle runner ((inv.statements (Gateway.mem_of_dispatch? hd)).expire _)
  | answerVisit id outcome =>
    rw [Gateway.step]
    rcases g.answerVisit_cases id outcome with eq | ⟨-, answer, -, eq⟩ <;> rw [eq]
    · exact inv
    · exact inv.of_eq rfl rfl
  | expireVisit id =>
    rw [Gateway.step]
    rcases g.expireVisit_cases id with eq | ⟨-, e, eq⟩ <;> rw [eq]
    · exact inv
    · exact inv.of_eq rfl rfl
  | replaceCatalog datasets =>
    rcases g.replaceCatalog_cases datasets with eq | ⟨catalog, -, eq⟩ <;> rw [eq]
    · exact inv
    · exact inv.of_eq rfl rfl
  | writeFile text => exact inv.of_eq rfl rfl

/-! ### runs -/

variable [LawfulStore σ]

theorem undergo (inv : Undenying g) (happening : Happening σ) :
    Undenying (g.undergo happening) := by
  cases happening with
  | event event => exact inv.step event
  | configure settings engines catalog file =>
    have founded : Founded undeniedResults { g.cache with settings := settings.lease } :=
      inv.cache.of_eq rfl rfl fun _ => rfl
    exact (inv.withCache founded).of_eq rfl rfl
  | interfere others => exact inv.withCache (inv.cache.withStore _)

theorem after (inv : Undenying g) (history : List (Happening σ)) :
    Undenying (g.after history) := by
  induction history generalizing g with
  | nil => exact inv
  | cons happening rest ih => exact ih (inv.undergo happening)

omit [SharedStore σ String] [LawfulStore σ] in
theorem initial (settings : GatewaySettings) (engines : Engines) (catalog : Catalog)
    (processes : Nat) (now : Moment) (store : σ) :
    Undenying (.start settings engines catalog processes now store) where
  cache := .fresh settings.lease processes now store
  statements := nofun

end Undenying

/-! ## the way of a visit -/

/-- The stages that a visit can come to from another one, if the cache turns no query away. -/
def Action.Leads (action : Action) : VisitStage → VisitStage → Prop :=
  ReflTransGen (action.Follows Undenied)

/-- Only a query asks the cache for rows, and only a description asks a source for its tables. -/
def VisitStage.Fits (action : Action) : VisitStage → Prop
  | fetching _ => ∃ request, action = .query request
  | describing source .. => action = .describe source
  | _ => True

namespace Action.Leads

variable {action : Action} {stage : VisitStage}

theorem fits (h : action.Leads .entering stage) : stage.Fits action := by
  cases h with
  | refl => trivial
  | tail _ follows =>
    cases follows with
    | planned query => exact ⟨_, query⟩
    | describes describe => exact describe
    | _ => trivial

/-- A query that is turned away has come no further than to make its plan, and not as far if it got
no token. -/
theorem of_denied {request : Request} {e : GatewayError}
    (h : (Action.query request).Leads stage (.done (.error e)))
    (fits : stage.Fits (.query request)) (denied : e.denies) :
    stage = .entering ∨ stage = .preparing ∧ e.deniesPlan ∨ stage = .done (.error e) := by
  -- from the end backwards, as it is the last stage that is known
  induction h using ReflTransGen.head_induction_on with
  | refl => exact .inr (.inr rfl)
  | head follows _ ih =>
    cases follows with
    | admitted | refused _ => exact .inl rfl
    | planned _ => simpa using ih ⟨_, rfl⟩
    | describes describe => cases describe
    | @unplanned _ e' _ unplanned =>
      have same : e' = e := by simpa using ih trivial
      exact .inr (.inl ⟨rfl, same ▸ unplanned⟩)
    | answered other => exact absurd rfl (other request)
    | @served call result undenied =>
      have same : result.map Answer.result = .error e := by simpa using ih trivial
      exact absurd denied ((undenied_map _).2 undenied e same)
    | described => cases fits
    | cancelled _ => simpa using ih trivial

end Action.Leads

/-- A visit that was another one before. -/
structure Visit.ComesFrom (v old : Visit) : Prop where
  same : v = { old with stage := v.stage }
  leads : old.action.Leads old.stage v.stage

namespace Visit.ComesFrom

theorem refl (v : Visit) : v.ComesFrom v := ⟨rfl, .refl⟩

theorem trans {u v w : Visit} (h : u.ComesFrom v) (h' : v.ComesFrom w) : u.ComesFrom w := by
  obtain ⟨same, leads⟩ := h
  obtain ⟨same', leads'⟩ := h'
  have action : v.action = w.action := by rw [same']
  refine ⟨?_, leads'.trans (action ▸ leads)⟩
  rw [same, same']

end Visit.ComesFrom

namespace Gateway

variable [SharedStore σ String] [LawfulStore σ] {g : Gateway σ} {id : Nat} {v : Visit}

theorem comesFrom_undergo (inv : Undenying g) {happening : Happening σ}
    (hv : (g.undergo happening).visits[id]? = some v) :
    g.visits[id]? = none ∧ v.stage = .entering ∨
      ∃ old, g.visits[id]? = some old ∧ v.ComesFrom old := by
  cases happening with
  | configure settings engines catalog file => exact .inr ⟨v, hv, .refl v⟩
  | interfere others => exact .inr ⟨v, hv, .refl v⟩
  | event event =>
    rcases visit_step hv with ⟨absent, entering, -⟩ | ⟨old, hold, same, stays | follows⟩
    · exact .inl ⟨absent, entering⟩
    · exact .inr ⟨old, hold, same, stays ▸ .refl⟩
    · exact .inr ⟨old, hold, same, .single (follows.mono fun _ => inv.returned)⟩

/-- A visit has come since, or it has gone on from where it was. -/
theorem comesFrom_after (inv : Undenying g) {history : List (Happening σ)}
    (hv : (g.after history).visits[id]? = some v) :
    g.visits[id]? = none ∧ v.ComesFrom { v with stage := .entering } ∨
      ∃ old, g.visits[id]? = some old ∧ v.ComesFrom old := by
  induction history using List.reverseRecOn generalizing v with
  | nil => exact .inr ⟨v, hv, .refl v⟩
  | append_singleton history happening ih =>
    rw [after_concat] at hv
    rcases comesFrom_undergo (inv.after history) hv with ⟨absent, entering⟩ | ⟨w, hw, went⟩
    · refine .inl ⟨?_, rfl, entering ▸ .refl⟩
      cases hold : g.visits[id]? with
      | none => rfl
      | some old =>
        obtain ⟨w, hw, -⟩ := onward_foldl history g id old hold
        cases absent.symm.trans hw
    · rcases ih hw with ⟨absent, came⟩ | ⟨old, hold, came⟩
      · have new : ({ v with stage := .entering } : Visit) = { w with stage := .entering } := by
          rw [went.same]
        exact .inl ⟨absent, new ▸ went.trans came⟩
      · exact .inr ⟨old, hold, went.trans came⟩

/-! ## what stays as it is -/

omit [SharedStore σ String] [LawfulStore σ] in
theorem visits_setVisit {g : Gateway σ} {id : Nat} {v : Visit} (hv : g.visits[id]? = some v)
    (stage : VisitStage) : (g.setVisit id stage).visits[id]? = some { v with stage } := by
  rw [setVisit, List.getElem?_modify_eq, hv]
  rfl

/-- From one state to another visits have gone on and some records have changed, and that is all. -/
structure Spares (g g' : Gateway σ) (touched : String → Prop) : Prop where
  /-- No call has come and no flight has started, and whatever is in flight or counted stays. -/
  cache : g'.cache = { g.cache with store := g'.cache.store }
  /-- No statement has been sent to a source. -/
  dispatches : g'.dispatches = g.dispatches
  catalog : g'.catalog = g.catalog
  records : ∀ key, ¬touched key → record? g'.cache.store key = record? g.cache.store key

namespace Spares

variable {g' g'' : Gateway σ} {touched touched' : String → Prop}

theorem of_eq (cache : g'.cache = g.cache) (dispatches : g'.dispatches = g.dispatches)
    (catalog : g'.catalog = g.catalog) : g.Spares g' touched where
  cache := by rw [cache]
  dispatches := dispatches
  catalog := catalog
  records _ _ := by rw [cache]

theorem trans (h : g.Spares g' touched) (h' : g'.Spares g'' touched) : g.Spares g'' touched where
  cache := by rw [h'.cache, h.cache]
  dispatches := h'.dispatches.trans h.dispatches
  catalog := h'.catalog.trans h.catalog
  records key other := (h'.records key other).trans (h.records key other)

theorem mono (h : g.Spares g' touched) (le : ∀ key, touched key → touched' key) :
    g.Spares g' touched' :=
  { h with records := fun key other => h.records key fun own => other (le key own) }

theorem setVisit (h : g.Spares g' touched) (id : Nat) (stage : VisitStage) :
    g.Spares (g'.setVisit id stage) touched := ⟨h.cache, h.dispatches, h.catalog, h.records⟩

end Spares

omit [LawfulStore σ] in
theorem pay_of_allowed {failing : List StoreOperation} {caller : Caller} {route : Route}
    (allowed : (g.settings.limiter.takeToken Bucket.textCodec ⟨g.now, failing⟩ caller.keyId route
      g.cache.store).1 = .ok .allowed) : (g.pay failing caller route).1 = .ok () := by
  simp only [pay, allowed]

variable [RecordStore σ]

/-- A payment changes the record of the bucket alone, and none if no token is to be had. -/
theorem spares_pay {paid : Gateway σ} {failing : List StoreOperation} {caller : Caller}
    {route : Route} {answer : Except GatewayError Unit}
    (h : g.pay failing caller route = (answer, paid)) :
    g.Spares paid fun key => answer = .ok () ∧ key = RateLimiter.bucketKey route caller.keyId := by
  let call : TokenCall := ⟨⟨route, caller.keyId⟩, ⟨g.now, failing⟩, g.now.calendar⟩
  obtain ⟨answered, records⟩ := call.follows g.settings.limiter Bucket.textCodec g.cache.store
  have paid_eq := congrArg Prod.snd h
  subst paid_eq
  refine ⟨rfl, rfl, rfl, fun key other => (records key).trans ?_⟩
  split
  · rename_i own
    by_cases writes : ∃ value, call.Writes g.settings.limiter Bucket.textCodec
        RecordStore.rules (record? g.cache.store call.bucket.key) value
    · obtain ⟨value, writes⟩ := writes
      rw [TokenCall.onRecord_of_writes writes] at answered
      have allowed := (congrArg Prod.fst h).symm.trans (pay_of_allowed answered)
      exact absurd ⟨allowed, own.symm⟩ other
    · obtain ⟨denial, -, eq⟩ := TokenCall.onRecord_of_not_writes writes
      rw [eq, own]
  · rfl

/-- A step of a visit that is to pay spares all but its bucket, unless it has a call of the cache
then; and the bucket as well, unless it is admitted. -/
theorem spares_stepVisit {route : Route} {failing : List StoreOperation}
    (hv : g.visits[id]? = some v) (priced : route? v.action = some route)
    (unasked : ∀ call, (g.stepVisit failing id).visits[id]? ≠
      some { v with stage := .fetching call }) :
    g.Spares (g.stepVisit failing id) fun key =>
      (g.stepVisit failing id).visits[id]? = some { v with stage := .preparing } ∧
        key = RateLimiter.bucketKey route v.caller.keyId := by
  have move := stepVisit_move failing hv
  generalize g.stepVisit failing id = g' at move unasked
  cases move with
  | @admitted other paid entering _ price eq =>
    cases priced.symm.trans price
    have there := hv
    rw [← visits_pay eq] at there
    exact ((spares_pay eq).setVisit id _).mono fun key own => ⟨visits_setVisit there _, own.2⟩
  | @denied other e paid entering _ price eq =>
    exact ((spares_pay eq).setVisit id _).mono fun key own => nomatch own.1
  | planned _ _ _ => exact absurd (visits_setVisit (g := { g with cache := _ }) hv _) (unasked _)
  | reloaded _ reload _ =>
    rw [reload] at priced
    cases priced
  | stays => exact .of_eq rfl rfl rfl
  | _ => exact .of_eq rfl rfl rfl

end Gateway

/-! ## the theorem -/

variable [SharedStore σ String] [LawfulStore σ]

/-- A visit comes, or the visit of that number takes a step. -/
def Happening.IsOf (id : Nat) : Happening σ → Prop
  | .event (.visit ..) => True
  | .event (.stepVisit visit _) => visit = id
  | _ => False

/-- Whether the visit has asked the cache for rows or a source for its tables. -/
def VisitStage.hasAsked : VisitStage → Bool
  | fetching _ | describing .. => true
  | _ => false

namespace Gateway

/-- All that a visit has done in a history is to change some records. -/
structure Traceless (start : Gateway σ) (history : List (Happening σ)) (id : Nat)
    (touched : String → Prop) : Prop where
  asksNobody : ∀ before v, before <+: history → (start.after before).visits[id]? = some v →
    v.stage.hasAsked = false
  /-- As long as nothing but the visit moves, all else stays as it is. -/
  spares : ∀ before own, before ++ own <+: history → (∀ happening ∈ own, happening.IsOf id) →
    (start.after before).Spares (start.after (before ++ own)) touched

variable {start : Gateway σ} {history : List (Happening σ)} {id : Nat} {v : Visit}
  {touched : String → Prop}

/-- What each step of a visit spares, all of them together spare. -/
theorem spares_of_steps
    (steps : ∀ before failing, before ++ [.event (.stepVisit id failing)] <+: history →
      (start.after before).Spares ((start.after before).stepVisit failing id) touched)
    {before own : List (Happening σ)} (known : before ++ own <+: history)
    (only : ∀ happening ∈ own, happening.IsOf id) :
    (start.after before).Spares (start.after (before ++ own)) touched := by
  induction own using List.reverseRecOn with
  | nil =>
    rw [List.append_nil]
    exact .of_eq rfl rfl rfl
  | append_singleton own happening ih =>
    rw [← List.append_assoc] at known
    have spared := ih ((List.prefix_append _ _).trans known) fun h mem =>
      only h (List.mem_append_left _ mem)
    have is_of := only happening (List.mem_append_right _ (List.mem_singleton_self _))
    rw [← List.append_assoc, after_concat]
    refine spared.trans ?_
    cases happening with
    | event event =>
      cases event with
      | visit process caller action => exact .of_eq rfl rfl rfl
      | stepVisit visit failing =>
        cases is_of
        exact steps _ failing known
      | _ => cases is_of
    | _ => cases is_of

/-- A visit that asks nobody and that is to pay has changed the bucket at most, where it came to
make a plan. -/
theorem traceless_of_stages [RecordStore σ] (caller : Caller) (route : Route)
    (stages : ∀ before v, before <+: history → (start.after before).visits[id]? = some v →
      route? v.action = some route ∧ v.caller = caller ∧ v.stage.hasAsked = false ∧
        (v.stage = .preparing → touched (RateLimiter.bucketKey route caller.keyId))) :
    start.Traceless history id touched where
  asksNobody before v known hv := (stages before v known hv).2.2.1
  spares before own known only := by
    refine spares_of_steps (fun before failing known => ?_) known only
    cases hv : (start.after before).visits[id]? with
    | none =>
      rw [stepVisit, hv]
      exact .of_eq rfl rfl rfl
    | some v =>
      obtain ⟨priced, same, -, -⟩ := stages before v ((List.prefix_append _ _).trans known) hv
      have next {w : Visit}
          (hw : ((start.after before).stepVisit failing id).visits[id]? = some w) :=
        stages _ w known (after_concat start before _ ▸ hw)
      refine (spares_stepVisit hv priced fun call asks => ?_).mono fun key own => ?_
      · obtain ⟨-, -, asked, -⟩ := next asks
        cases asked
      · obtain ⟨prepares, rfl⟩ := own
        exact same ▸ (next prepares).2.2.2 rfl

variable {settings : GatewaySettings} {engines : Engines} {catalog : Catalog} {processes : Nat}
  {now : Moment} {store : σ}

theorem comesFrom_before (starts : start = .start settings engines catalog processes now store)
    (hv : (start.after history).visits[id]? = some v) {before : List (Happening σ)}
    (known : before <+: history) {w : Visit} (hw : (start.after before).visits[id]? = some w) :
    v.ComesFrom w ∧ w.stage.Fits w.action := by
  obtain ⟨rest, rfl⟩ := known
  have initial : Undenying start := starts ▸ .initial settings engines catalog processes now store
  constructor
  · rw [after_append] at hv
    rcases comesFrom_after (initial.after before) hv with ⟨absent, -⟩ | ⟨old, hold, came⟩
    · cases absent.symm.trans hw
    · cases hold.symm.trans hw
      exact came
  · rcases comesFrom_after initial hw with ⟨-, came⟩ | ⟨old, hold, -⟩
    · exact came.leads.fits
    · subst starts
      cases hold

end Gateway

open Gateway in
/-- A query that is turned away has asked neither the cache nor a source. Its steps leave the calls,
the flights, the counters and the catalog as they are, and every record but that of its bucket; that
one as well if it got no token. A request to show a plan likewise changes the record of its bucket
at most, whatever comes of it. -/
theorem turned_away_traceless [RecordStore σ] (settings : GatewaySettings) (engines : Engines)
    (catalog : Catalog) (processes : Nat) (now : Moment) (store : σ)
    (history : List (Happening σ)) (start : Gateway σ)
    (starts : start = .start settings engines catalog processes now store) {id : Nat} {v : Visit}
    (hv : (start.after history).visits[id]? = some v) :
    (∀ request e, v.action = .query request → v.stage = .done (.error e) → e.denies →
      start.Traceless history id fun key =>
        e.deniesPlan ∧ key = RateLimiter.bucketKey .query v.caller.keyId) ∧
    ∀ request, v.action = .explain request →
      start.Traceless history id fun key => key = RateLimiter.bucketKey .metadata v.caller.keyId := by
  constructor
  · intro request e query done denied
    refine traceless_of_stages v.caller .query fun before w known hw => ?_
    obtain ⟨⟨same, leads⟩, fits⟩ := comesFrom_before starts hv known hw
    have action : w.action = .query request := by rw [← query, same]
    have caller : w.caller = v.caller := by rw [same]
    rw [action, done] at leads
    rw [action] at fits
    refine ⟨action ▸ rfl, caller, ?_⟩
    rcases leads.of_denied fits denied with stage | ⟨stage, unplanned⟩ | stage
    · exact ⟨stage ▸ rfl, stage ▸ nofun⟩
    · exact ⟨stage ▸ rfl, fun _ => ⟨unplanned, rfl⟩⟩
    · exact ⟨stage ▸ rfl, stage ▸ nofun⟩
  · intro request explain
    refine traceless_of_stages v.caller .metadata fun before w known hw => ?_
    obtain ⟨⟨same, -⟩, fits⟩ := comesFrom_before starts hv known hw
    have action : w.action = .explain request := by rw [← explain, same]
    have caller : w.caller = v.caller := by rw [same]
    rw [action] at fits
    refine ⟨action ▸ rfl, caller, ?_, fun _ => rfl⟩
    generalize w.stage = stage at fits
    cases stage with
    | fetching call => exact nomatch fits
    | describing source engine deadline => exact nomatch fits
    | _ => rfl

/-! ## one run -/

namespace RejectionSample

open IsolationSample (analyst)

def dataset : Dataset := { orders with tenantColumn := some "tenant", cacheSeconds := some 0 }

def gateway : Gateway (MemoryStore String) :=
  .start {} (.ofList [("warehouse", .postgresql)])
    { current := ⟨.ofList [("orders", dataset)], 1⟩, sources := .empty } 1 ⟨.zero, 0⟩ {}

def unknownField : Request := { ordersRequest [] with dimensions := ["colour"] }

/-- The analyst asks by a field that there is not, and has the plan of another query shown. -/
def history : List (Happening (MemoryStore String)) :=
  [.visit 0 analyst (.query unknownField), .visit 0 analyst (.explain (ordersRequest [])),
    .stepVisit 0 [], .stepVisit 1 [], .stepVisit 0 [], .stepVisit 1 []].map .event

def error? (v : Visit) : Option GatewayError :=
  match v.stage with
  | .done (.error e) => some e
  | _ => none

theorem stage_of_error? {v : Visit} {e : GatewayError} (h : error? v = some e) :
    v.stage = .done (.error e) := by
  unfold error? at h
  split at h
  · rename_i stage
    cases h
    exact stage
  · cases h

def unknown : GatewayError := .compile (.unknownField "orders" "colour")

end RejectionSample

open RejectionSample Gateway in
open IsolationSample (analyst) in
theorem turned_away_traceless_sample :
    ∃ v w, (gateway.after history).visits[0]? = some v ∧ v.stage = .done (.error unknown) ∧
      (gateway.after history).visits[1]? = some w ∧ w.action = .explain (ordersRequest []) ∧
      (gateway.Traceless history 0 fun key =>
        unknown.deniesPlan ∧ key = RateLimiter.bucketKey .query "reports") ∧
      gateway.Traceless history 1 fun key => key = RateLimiter.bucketKey .metadata "reports" := by
  have came : (gateway.after (history.take 1)).visits[0]? =
      some ⟨0, analyst, .query unknownField, .zero, .entering⟩ := rfl
  have came' : (gateway.after (history.take 2)).visits[1]? =
      some ⟨0, analyst, .explain (ordersRequest []), .zero, .entering⟩ := rfl
  obtain ⟨v, hv, -, caller, query, -⟩ := onward_after (List.take_prefix 1 history) 0 _ came
  obtain ⟨w, hw, -, caller', explain, -⟩ := onward_after (List.take_prefix 2 history) 1 _ came'
  have failed : (gateway.after history).visits[0]?.bind error? = some unknown := by decide +kernel
  rw [hv, Option.bind_some] at failed
  have stage := stage_of_error? failed
  have turned := (turned_away_traceless _ _ _ _ _ _ history gateway rfl hv).1 _ _ query stage
    (by decide)
  have shown := (turned_away_traceless _ _ _ _ _ _ history gateway rfl hw).2 _ explain
  rw [caller] at turned
  rw [caller'] at shown
  exact ⟨v, w, hv, stage, hw, explain, turned, shown⟩

end AnalyticsGateway
