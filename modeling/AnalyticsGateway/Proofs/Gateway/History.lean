import AnalyticsGateway.Gateway.Step
import AnalyticsGateway.Proofs.Cache.Key
import AnalyticsGateway.Proofs.Except
import AnalyticsGateway.Proofs.Store.Contract
import AnalyticsGateway.Proofs.Tenancy

/-!
# Histories of gateways

A gateway with all its processes goes through events, through changes of configuration by which each
process may have a catalog of its own, and through whatever others do to the store, as long as they
leave the cache's records alone. A history tells which queries were planned and what was executed.
-/

namespace AnalyticsGateway

open LawfulStore

/-- A change of the store by others: what is under the cache's names afterwards was there before. -/
structure Interference (σ : Type) {β : Type} [SharedStore σ β] [LawfulStore σ] where
  change : σ → σ
  apart : ∀ {s k r}, CacheKey.Owns k → record? (change s) k = some r → record? s k = some r

variable {σ : Type} [SharedStore σ String] [LawfulStore σ]

inductive Happening (σ : Type) [SharedStore σ String] [LawfulStore σ] where
  | event (event : GatewayEvent)
  /-- What the processes have been started with, and the catalog that they know. -/
  | configure (settings : GatewaySettings) (engines : Engines) (catalog : Catalog)
    (file : Option String)
  | interfere (others : Interference σ)

namespace Gateway

def undergo (g : Gateway σ) : Happening σ → Gateway σ
  | .event event => g.step event
  | .configure settings engines catalog file =>
    { g with
      settings, engines, catalog, file
      cache := { g.cache with settings := settings.lease } }
  | .interfere others => { g with cache := { g.cache with store := others.change g.cache.store } }

def after (g : Gateway σ) (history : List (Happening σ)) : Gateway σ := history.foldl undergo g

theorem after_append (g : Gateway σ) (history later : List (Happening σ)) :
    g.after (history ++ later) = (g.after history).after later := List.foldl_append

theorem after_concat (g : Gateway σ) (history : List (Happening σ)) (happening : Happening σ) :
    g.after (history ++ [happening]) = (g.after history).undergo happening := after_append ..

/-! ## plans and executions -/

/-- A visit of a caller has planned a query of a dataset. -/
def Planned (start : Gateway σ) (history : List (Happening σ)) (visit : Nat) (caller : Caller)
    (dataset : Dataset) (plan : Plan) : Prop :=
  ∃ before failing v request, before ++ [.event (.stepVisit visit failing)] <+: history ∧
    (start.after before).visits[visit]? = some v ∧ v.stage = .preparing ∧
    v.action = .query request ∧ v.caller = caller ∧
    (start.after before).plan caller request = .ok (dataset, plan)

/-- A source has returned rows for a statement that it was asked to run. -/
def Executed (start : Gateway σ) (history : List (Happening σ)) (source sql : String)
    (rows : RowSet) : Prop :=
  ∃ before runner d again, before ++ [.event (.answerJob runner (.ok rows))] <+: history ∧
    (start.after before).dispatch? runner = some d ∧ d.stage = .calling again ∧
    d.source = source ∧ d.sql = sql

variable {start : Gateway σ} {history later : List (Happening σ)}

theorem Planned.mono {visit : Nat} {caller : Caller} {dataset : Dataset} {plan : Plan}
    (longer : history <+: later) :
    Planned start history visit caller dataset plan → Planned start later visit caller dataset plan
  | ⟨before, failing, v, request, known, rest⟩ =>
    ⟨before, failing, v, request, known.trans longer, rest⟩

theorem Executed.mono {source sql : String} {rows : RowSet} (longer : history <+: later) :
    Executed start history source sql rows → Executed start later source sql rows
  | ⟨before, runner, d, again, known, rest⟩ => ⟨before, runner, d, again, known.trans longer, rest⟩

end Gateway

/-! ## what a plan is -/

namespace Gateway

omit [SharedStore σ String] [LawfulStore σ] in
theorem plan_eq_ok {g : Gateway σ} {caller : Caller} {request : Request} {d : Dataset} {p : Plan} :
    g.plan caller request = .ok (d, p) ↔ g.catalog.current.get? request.dataset = some d ∧
      d.plan g.settings.ceilings caller request = .ok p := by
  unfold Gateway.plan
  cases g.catalog.current.get? request.dataset with
  | none => exact ⟨(nomatch ·), fun h => nomatch h.1⟩
  | some dataset =>
    simp only [bind_eq_ok]
    constructor
    · rintro ⟨plan, h, eq⟩
      cases eq
      exact ⟨rfl, h⟩
    · rintro ⟨eq, h⟩
      cases eq
      exact ⟨p, h, rfl⟩

variable {start : Gateway σ} {history : List (Happening σ)}

theorem Planned.exists_compile {visit : Nat} {caller : Caller} {d : Dataset} {p : Plan}
    (h : Planned start history visit caller d p) : ∃ ceilings request compiled,
      d.compile ceilings request = .ok compiled ∧ d.enforce caller compiled = .ok p.query ∧
        p.query.render = .ok p.sql ∧ CacheKey.ofQuery p.query = .ok p.key := by
  obtain ⟨before, _, _, request, -, -, -, -, -, planned⟩ := h
  obtain ⟨compiled, h⟩ := AnalyticsGateway.plan_eq_ok.1 (plan_eq_ok.1 planned).2
  exact ⟨_, request, compiled, h⟩

theorem Planned.scopedFor {visit : Nat} {caller : Caller} {d : Dataset} {p : Plan}
    (h : Planned start history visit caller d p) : ScopedFor d caller p.query := by
  obtain ⟨_, _, _, compiled, enforced, -, -⟩ := h.exists_compile
  exact scopedFor_enforce compiled enforced

theorem Planned.key_eq {visit : Nat} {caller : Caller} {d : Dataset} {p : Plan}
    (h : Planned start history visit caller d p) : p.key =
      ⟨CacheKey.namePrefix ++ "v1:" ++ Sha256.hexDigest (CacheKey.source p.query)⟩ := by
  obtain ⟨_, _, _, -, -, -, key⟩ := h.exists_compile
  exact (CacheKey.ofQuery_eq_ok.1 key).2

end Gateway

end AnalyticsGateway
