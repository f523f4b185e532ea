import AnalyticsGateway.Proofs.Gateway.Traced
import AnalyticsGateway.Proofs.Gateway.Visits

/-!
# Tenants are kept apart

As keys tell scopes apart, no caller is served rows of a query that was not scoped to the caller's
own tenant (`tenant_isolation`). Rows may have been returned for the query of another visit, and by
another process, but never for that of another tenant.
-/

namespace AnalyticsGateway

open SharedStore LawfulStore

variable {σ : Type} [SharedStore σ String] [LawfulStore σ]

namespace Gateway

/-- The digest tells apart the texts that are hashed for the plans of a history. -/
def TellsApart (start : Gateway σ) (history : List (Happening σ)) : Prop :=
  ∀ {visit visit' : Nat} {caller caller' : Caller} {d e : Dataset} {p q : Plan},
    Planned start history visit caller d p → Planned start history visit' caller' e q →
      Sha256.hexDigest (CacheKey.source p.query) = Sha256.hexDigest (CacheKey.source q.query) →
        CacheKey.source p.query = CacheKey.source q.query

/-- Rows that a source has returned for the statement of a query, which was compiled for a request
of some visit and scoped to the visit's caller. -/
def ReturnedFor (start : Gateway σ) (history : List (Happening σ)) (query : Sql.Query)
    (rows : RowSet) : Prop :=
  ∃ visit caller d p ceilings request compiled, Planned start history visit caller d p ∧
    p.query = query ∧ d.compile ceilings request = .ok compiled ∧
    d.enforce caller compiled = .ok query ∧ query.render = .ok p.sql ∧
    Executed start history d.source p.sql.text rows

variable {start : Gateway σ} {history : List (Happening σ)}

theorem Planned.digest_eq {visit visit' : Nat} {caller caller' : Caller} {d e : Dataset}
    {p q : Plan} (h : Planned start history visit caller d p)
    (h' : Planned start history visit' caller' e q) (key : p.key = q.key) :
    Sha256.hexDigest (CacheKey.source p.query) = Sha256.hexDigest (CacheKey.source q.query) := by
  rw [h.key_eq, h'.key_eq] at key
  have texts := congrArg String.toList (CacheKey.mk.inj key)
  simp only [String.toList_append] at texts
  exact String.toList_inj.1 (List.append_cancel_left texts)

theorem Planned.returnedFor {visit : Nat} {caller : Caller} {d : Dataset} {p : Plan} {rows : RowSet}
    (h : Planned start history visit caller d p)
    (executed : Executed start history d.source p.sql.text rows) :
    ReturnedFor start history p.query rows := by
  obtain ⟨ceilings, request, compiled, hcompile, henforce, hrender, -⟩ := h.exists_compile
  exact ⟨visit, caller, d, p, ceilings, request, compiled, h, rfl, hcompile, henforce, hrender,
    executed⟩

end Gateway

open Gateway in
/-- Whatever happens to a gateway, in any order: a caller who is no administrator is served rows
that a source has returned for a query scoped to the caller's tenant, and one that is guarded for
it where the dataset of the caller's plan tells tenants apart. The entries of the cache are results
that a source has returned, so no failure is ever kept. -/
theorem tenant_isolation (settings : GatewaySettings) (engines : Engines) (catalog : Catalog)
    (processes : Nat) (now : Moment) (store : σ) (history : List (Happening σ)) (start : Gateway σ)
    (starts : start = .start settings engines catalog processes now store)
    (unwritten : ∀ k, CacheKey.Owns k → record? store k = none)
    (apart : TellsApart start history) :
    (∀ (id : Nat) (v : Visit) (result : QueryResult),
      (start.after history).visits[id]? = some v → v.stage = .done (.ok (.result result)) →
      v.caller.isAdmin = false →
        (∃ d p, Planned start history id v.caller d p) ∧
        ∃ query made, ReturnedFor start history query made ∧ made.Carries result.rows ∧
          (query.scope = .enforced v.caller.tenant ∨ query.scope = .unscoped v.caller.tenant) ∧
          ∀ d p, Planned start history id v.caller d p → d.tenantColumn.isSome →
            query.scope = .enforced v.caller.tenant ∧ query.IsGuardedFor v.caller.tenant) ∧
    ∀ (key : CacheKey) (text : String) (expiry : Expiry σ), CacheKey.Owns key.text →
      record? (start.after history).cache.store key.entry = some (text, expiry) →
        ∃ query made ttl now, ReturnedFor start history query made ∧
          CacheKey.ofQuery query = .ok key ∧ text = (CacheEntry.new made ttl now).text := by
  subst starts
  have traced := Traced.after settings engines catalog processes now unwritten history
  constructor
  · intro id v result hv stage notAdmin
    obtain ⟨d, p, planned, made, ran, carries⟩ := traced.done hv stage
    obtain ⟨visit, caller, e, q, returned, key, executed⟩ := ran
    have source := apart returned planned (returned.digest_eq planned key)
    have scope : q.query.scope = p.query.scope := CacheKey.scope_eq_of_source source
    have served := planned.scopedFor
    refine ⟨⟨d, p, planned⟩, q.query, made, returned.returnedFor executed, carries, ?_, ?_⟩
    · rw [scope]
      exact served.tenant notAdmin
    · intro d' p' planned' column
      obtain ⟨rfl, rfl⟩ := planned.unique planned'
      have enforced := scope.trans (served.enforced notAdmin column)
      exact ⟨enforced, returned.scopedFor.isGuardedFor enforced⟩
  · intro key text expiry own record
    obtain ⟨entry, ⟨made, ttl, published, ran, rfl⟩, rfl⟩ := traced.cache.records own record
    obtain ⟨visit, caller, e, q, returned, rfl, executed⟩ := ran
    obtain ⟨-, -, -, -, -, -, hkey⟩ := returned.exists_compile
    exact ⟨q.query, made, ttl, published, returned.returnedFor executed, hkey, rfl⟩

/-! ## two tenants -/

namespace IsolationSample

def dataset : Dataset := { orders with tenantColumn := some "tenant" }

def request : Request := { dataset := "orders", metrics := ["count"] }

def analyst : Caller := ⟨"acme", .analyst, "reports"⟩

def viewer (key : String) : Caller := ⟨"acme", .viewer, key⟩

/-- Of another tenant. -/
def stranger : Caller := ⟨"globex", .analyst, "figures"⟩

/-- Two processes. -/
def gateway : Gateway (MemoryStore String) :=
  .start {} (.ofList [("warehouse", .postgresql)])
    { current := ⟨.ofList [("orders", dataset)], 1⟩, sources := .empty } 2 ⟨.zero, 0⟩ {}

def counted (count : Int) : RowSet := ⟨[⟨"count", "int8"⟩], [[.integer count]]⟩

/-! ### the plans -/

def query (selection : Option Sql.Condition) (scope : Sql.Scope) : Sql.Query where
  dataset := "orders"
  dialect := .postgresql
  projection := [⟨.aggregate .count none, "count"⟩]
  base := ⟨.table "orders", "base"⟩
  joins := []
  selection
  grouping := []
  having := none
  order := []
  limit := 1000
  offset := none
  scope

def ownQuery (tenant : String) : Sql.Query :=
  query (some (.guard ⟨some "base", "tenant"⟩ tenant)) (.enforced tenant)

/-- The plan for a tenant, by the digest of its query. -/
def plan (tenant digest : String) : Plan where
  query := ownQuery tenant
  sql :=
    ⟨"SELECT COUNT(*) AS count FROM orders AS base WHERE tenant = '" ++ tenant ++ "' LIMIT 1000",
      .postgresql⟩
  key := ⟨"qc:v1:" ++ digest⟩

def analystPlan : Plan :=
  plan "acme" "aeb421d364fe7c2878c9646a1d296b848a8b376ebb4e2c474d2f26e076a0bd0d"

def strangerPlan : Plan :=
  plan "globex" "b4c5c515200aa50b78d0963592f14216ba4e8c594f50aad9e46d8c8177df0765"

theorem plan_eq {caller : Caller} {digest : String} (notAdmin : caller.isAdmin = false)
    (render : (ownQuery caller.tenant).render = .ok (plan caller.tenant digest).sql)
    (hashed : Sha256.hexDigest (CacheKey.source (ownQuery caller.tenant)) = digest) :
    dataset.plan {} caller request = .ok (plan caller.tenant digest) := by
  have compiled : dataset.compile {} request = .ok (query none .undecided) := by
    with_unfolding_all rfl
  have enforced :
      dataset.enforce caller (query none .undecided) = .ok (ownQuery caller.tenant) := by
    simp only [Dataset.enforce, notAdmin]
    rfl
  refine plan_eq_ok.2 ⟨_, compiled, enforced, render, CacheKey.ofQuery_eq_ok.2 ⟨?_, ?_⟩⟩
  · simp [plan, ownQuery, query]
  · rw [plan, ← hashed]
    rfl

theorem plan_acme {caller : Caller} (own : caller.tenant = "acme")
    (notAdmin : caller.isAdmin = false) :
    dataset.plan {} caller request = .ok analystPlan := by
  rw [analystPlan, ← own]
  refine plan_eq notAdmin ?_ ?_ <;> rw [own]
  · decide +kernel
  · rw [← String.toList_inj, CacheKey.source, Json.compact, Sha256.toList_hexDigest]
    decide +kernel

theorem plan_stranger : dataset.plan {} stranger request = .ok strangerPlan := by
  refine plan_eq rfl (by decide +kernel) ?_
  rw [← String.toList_inj, CacheKey.source, Json.compact, Sha256.toList_hexDigest]
  decide +kernel

/-! ### the run -/

/-- A visit by the process that it reaches, its caller, and the plan for its query. -/
structure Ask where
  process : Nat
  caller : Caller
  plan : Plan

def Ask.visit (ask : Ask) : Visit :=
  ⟨ask.process, ask.caller, .query request, .zero, .preparing⟩

def asks : List Ask :=
  [⟨0, analyst, analystPlan⟩, ⟨0, viewer "charts", analystPlan⟩, ⟨1, stranger, strangerPlan⟩,
    ⟨1, viewer "alerts", analystPlan⟩]

/-- All four visits enter, -/
def entering : List (Happening (MemoryStore String)) :=
  (asks.mapIdx fun id ask =>
    [.visit ask.process ask.caller (.query request), .stepVisit id []]).flatten.map .event

/-- are planned, -/
def planning : List (Happening (MemoryStore String)) :=
  asks.mapIdx fun id _ => .event (.stepVisit id [])

/-- two queries are sent off, one of them for two visits, -/
def sending : List (Happening (MemoryStore String)) :=
  [.stepCall 0 [], .stepCall 0 [], .stepCall 1 [], .stepCall 1 [], .stepFlight 0 [],
    .stepFlight 0 [], .startJob (.flight 0), .stepCall 2 [], .stepCall 2 [], .stepFlight 1 [],
    .stepFlight 1 [], .startJob (.flight 1)].map .event

/-- and the last visit looks for rows between the two answers. -/
def answering : List (Happening (MemoryStore String)) :=
  [.answerJob (.flight 0) (.ok (counted 3)), .stepFlight 0 [], .stepCall 0 [], .stepCall 0 [],
    .stepVisit 0 [], .stepCall 1 [], .stepCall 1 [], .stepVisit 1 [], .stepCall 3 [],
    .stepVisit 3 [], .answerJob (.flight 1) (.ok (counted 5)), .stepFlight 1 [], .stepCall 2 [],
    .stepCall 2 [], .stepVisit 2 []].map .event

def history : List (Happening (MemoryStore String)) :=
  entering ++ planning ++ (sending ++ answering)

/-- The gateway when the first visits are planned. The keys of their plans are told, so that all it
goes on to do can be computed. -/
def fetching : Nat → Gateway (MemoryStore String)
  | 0 => gateway.after entering
  | id + 1 =>
    let g := fetching id
    match asks[id]? with
    | some ask =>
      ({ g with cache := g.cache.arrive (g.requestFor ask.visit dataset ask.plan) }).setVisit id
        (.fetching g.cache.calls.length)
    | none => g

variable {id : Nat} {ask : Ask}

set_option maxRecDepth 4000 in
theorem visits_fetching (h : asks[id]? = some ask) : (fetching id).visits[id]? = some ask.visit :=
  match id, h with
  | 0, rfl | 1, rfl | 2, rfl | 3, rfl => rfl

set_option maxRecDepth 4000 in
theorem plan_fetching (h : asks[id]? = some ask) :
    (fetching id).plan ask.caller request = .ok (dataset, ask.plan) :=
  match id, h with
  | 0, rfl | 1, rfl | 3, rfl => Gateway.plan_eq_ok.2 ⟨rfl, plan_acme rfl rfl⟩
  | 2, rfl => Gateway.plan_eq_ok.2 ⟨rfl, plan_stranger⟩

theorem after_planning (id : Nat) : gateway.after (entering ++ planning.take id) = fetching id := by
  induction id with
  | zero => rfl
  | succ id ih =>
    rw [List.take_add_one, ← List.append_assoc, Gateway.after_append, ih, planning,
      List.getElem?_mapIdx, fetching]
    cases h : asks[id]? with
    | none => rfl
    | some ask => exact Gateway.stepVisit_of_plan [] (visits_fetching h) rfl rfl (plan_fetching h)

theorem reached (id : Nat) : entering ++ planning.take id <+: history :=
  ((List.prefix_append_right_inj entering).2 (List.take_prefix ..)).trans (List.prefix_append ..)

theorem planned_of_ask (h : asks[id]? = some ask) :
    Gateway.Planned gateway history id ask.caller dataset ask.plan := by
  have eq := after_planning id
  have made : planning.take (id + 1) = planning.take id ++ [.event (.stepVisit id [])] := by
    rw [List.take_add_one, planning, List.getElem?_mapIdx, h]
    rfl
  have known := reached (id + 1)
  rw [made, ← List.append_assoc] at known
  refine ⟨_, [], ask.visit, request, known, ?_, rfl, rfl, rfl, ?_⟩ <;> rw [eq]
  · exact visits_fetching h
  · exact plan_fetching h

/-- Whose result it is, whether it is a hit, and the counts in it. -/
def summary (v : Visit) : Option (String × Bool × List Int) :=
  match v.stage with
  | .done (.ok (.result result)) =>
    some (v.caller.tenant, result.cacheHit, result.rows.rows.flatten.filterMap Json.integer?)
  | _ => none

theorem summaries : (gateway.after history).visits.map summary =
    [some ("acme", false, [3]), some ("acme", false, [3]), some ("globex", false, [5]),
      some ("acme", true, [3])] := by
  have whole : planning.take 4 = planning := rfl
  rw [history, Gateway.after_append, ← whole, after_planning]
  decide +kernel

theorem exists_ask {v : Visit} (hv : (gateway.after history).visits[id]? = some v) :
    ∃ ask ∈ asks, Gateway.Planned gateway history id ask.caller dataset ask.plan ∧
      v.caller = ask.caller := by
  have short : id < asks.length := by
    have short := (List.getElem?_eq_some_iff.1 hv).1
    rwa [← List.length_map (f := summary), summaries] at short
  have asked := List.getElem?_eq_getElem short
  have first := visits_fetching asked
  rw [← after_planning] at first
  obtain ⟨w, hw, -, caller, -⟩ := Gateway.onward_after (reached id) id _ first
  cases hv.symm.trans hw
  exact ⟨_, List.getElem_mem short, planned_of_ask asked, caller⟩

/-- The plans are told apart by their keys. -/
theorem apart : Gateway.TellsApart gateway history := by
  have plan {visit : Nat} {caller : Caller} {d : Dataset} {p : Plan}
      (h : Gateway.Planned gateway history visit caller d p) :
      p = analystPlan ∨ p = strangerPlan := by
    have ⟨before, _, v, _, known, hv, _⟩ := h
    obtain ⟨w, hw, -⟩ := Gateway.onward_after ((List.prefix_append ..).trans known) visit v hv
    obtain ⟨ask, mem, planned, -⟩ := exists_ask hw
    have plans : ∀ ask ∈ asks, ask.plan = analystPlan ∨ ask.plan = strangerPlan := by simp [asks]
    exact (h.unique planned).2 ▸ plans ask mem
  have differ : analystPlan.key ≠ strangerPlan.key := by decide
  intro visit visit' caller caller' d e p q h h' same
  have key : p.key = q.key := by rw [h.key_eq, h'.key_eq, same]
  rcases plan h with rfl | rfl <;> rcases plan h' with rfl | rfl
  · rfl
  · exact absurd key differ
  · exact absurd key.symm differ
  · rfl

open Gateway in
/-- A visit of a tenant's caller has a result with a count in it, which was returned for a query of
the tenant's own. -/
def Serves (id : Nat) (tenant : String) (hit : Bool) (count : Int) : Prop :=
  ∃ v result query made, (gateway.after history).visits[id]? = some v ∧ v.caller.tenant = tenant ∧
    v.stage = .done (.ok (.result result)) ∧ result.cacheHit = hit ∧
    result.rows.rows.flatten.filterMap Json.integer? = [count] ∧
    ReturnedFor gateway history query made ∧ made.Carries result.rows ∧
    query.scope = .enforced tenant ∧ query.IsGuardedFor tenant

end IsolationSample

open IsolationSample Gateway in
/-- Two callers of a tenant share a query, another tenant's caller has one of its own, and what is
found in the cache after that is the first one's. -/
theorem tenant_isolation_sample :
    Serves 0 "acme" false 3 ∧ Serves 1 "acme" false 3 ∧ Serves 2 "globex" false 5 ∧
      Serves 3 "acme" true 3 := by
  have isolated := (tenant_isolation _ _ _ _ _ _ history gateway rfl (fun _ _ => rfl) apart).1
  have serves {id : Nat} {tenant : String} {hit : Bool} {count : Int}
      (served : ((gateway.after history).visits.map summary)[id]? =
        some (some (tenant, hit, [count]))) : Serves id tenant hit count := by
    rw [List.getElem?_map, Option.map_eq_some_iff] at served
    obtain ⟨v, hv, summed⟩ := served
    unfold summary at summed
    split at summed
    · rename_i result stage
      simp only [Option.some.injEq, Prod.mk.injEq] at summed
      obtain ⟨rfl, rfl, counted⟩ := summed
      obtain ⟨ask, mem, asked, caller⟩ := exists_ask hv
      have notAdmin : ∀ ask ∈ asks, ask.caller.isAdmin = false := by decide
      obtain ⟨⟨d, p, planned⟩, query, made, returned, carries, -, guarded⟩ :=
        isolated id v result hv stage (caller ▸ notAdmin ask mem)
      obtain ⟨rfl, rfl⟩ := planned.unique asked
      obtain ⟨enforced, confined⟩ := guarded dataset _ planned rfl
      exact ⟨v, result, query, made, hv, rfl, stage, rfl, counted, returned, carries, enforced,
        confined⟩
    · cases summed
  rw [summaries] at serves
  exact ⟨serves rfl, serves rfl, serves rfl, serves rfl⟩

end AnalyticsGateway
