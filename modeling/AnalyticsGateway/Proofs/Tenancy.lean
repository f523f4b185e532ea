import AnalyticsGateway.Gateway.Plan
import AnalyticsGateway.Proofs.Compile.Levels

/-!
# What row-level security decides

A compiled query has no guard and no scope. Scoping it to a caller either takes note of an
administrator, or guards the rows for the caller's tenant, or finds that the dataset tells no
tenants apart (`scopedFor_enforce`). A plan is made of a query that was scoped so (`plan_eq_ok`).
-/

namespace AnalyticsGateway

open Sql (Condition)

/-! ## compiled queries -/

namespace Sql.Condition

variable {level : Level}

mutual

theorem OnLevel.guards : ∀ {c : Condition}, c.OnLevel level → c.guards = []
  | .test _ _, _ => by rw [Condition.guards]
  | .guard .., h => by
    rw [OnLevel] at h
    exact h.elim
  | .not c, h => by
    rw [OnLevel] at h
    rw [Condition.guards, OnLevel.guards h]
  | .group _ parts, h => by
    rw [OnLevel] at h
    rw [Condition.guards, AllOnLevel.guards h.2]

theorem AllOnLevel.guards : ∀ {parts : List Condition}, AllOnLevel level parts →
    guardsAll parts = []
  | [], _ => by rw [guardsAll]
  | c :: rest, h => by
    rw [AllOnLevel] at h
    rw [guardsAll, OnLevel.guards h.1, AllOnLevel.guards h.2, List.append_nil]

end

end Sql.Condition

variable {d : Dataset} {c : Ceilings} {request : Request}

theorem onLevel_clause {filters : List Filter} {clauses : Option Condition × Option Condition}
    (h : d.conditions c filters = .ok clauses) {condition : Condition} {level : Level}
    (hclause : level.clause clauses = some condition) : condition.OnLevel level := by
  obtain ⟨conditions, joined, compiled⟩ := clause_eq_some h hclause
  refine Condition.OnLevel.of_junction (fun part hpart => ?_) joined
  obtain ⟨f, -, hf⟩ := compiled part hpart
  exact onLevel_compileFilter hf

theorem guardedFor?_compile {q : Sql.Query} (h : d.compile c request = .ok q) :
    q.guardedFor? = none := by
  rw [Sql.Query.guardedFor?]
  cases hs : q.selection with
  | none => rfl
  | some condition =>
    have level : condition.OnLevel .rows := onLevel_clause (compile_conditions h) hs
    rw [Option.bind_some, Condition.guardedFor?, level.guards, List.head?_nil]

/-! ## scoped queries -/

/-- The outcomes of scoping a query. One that has a guard is returned to the guard's tenant
alone. -/
inductive Scoping (d : Dataset) (caller : Caller) (q : Sql.Query) :
    Except SecurityError Sql.Query → Prop
  | kept : q.guardedFor? = some caller.tenant → Scoping d caller q (.ok q)
  | refused {tenant : String} : q.guardedFor? = some tenant → tenant ≠ caller.tenant →
    Scoping d caller q (.error .otherTenant)
  | bypassed : q.guardedFor? = none → caller.isAdmin = true →
    Scoping d caller q (.ok { q with scope := .bypassed caller.tenant })
  | guarded {column : String} : q.guardedFor? = none → caller.isAdmin = false →
    d.tenantColumn = some column →
    Scoping d caller q (.ok (q.guarded ⟨some d.aliasName, column⟩ caller.tenant))
  | missing : q.guardedFor? = none → caller.isAdmin = false → d.tenantColumn = none →
    d.tenancyRequired = true → Scoping d caller q (.error (.noTenantColumn d.id))
  | unscoped : q.guardedFor? = none → caller.isAdmin = false → d.tenantColumn = none →
    d.tenancyRequired = false → Scoping d caller q (.ok { q with scope := .unscoped caller.tenant })

theorem scoping_enforce (d : Dataset) (caller : Caller) (q : Sql.Query) :
    Scoping d caller q (d.enforce caller q) := by
  rw [Dataset.enforce]
  split
  · rename_i tenant guard
    split
    · rename_i same
      exact .kept (same ▸ guard)
    · rename_i other
      exact .refused guard other
  · rename_i none
    split
    · rename_i admin
      exact .bypassed none admin
    · rename_i admin
      have admin := Bool.eq_false_iff.2 admin
      split
      · rename_i column
        exact .guarded none admin column
      · rename_i column
        split
        · rename_i required
          exact .missing none admin column required
        · rename_i required
          exact .unscoped none admin column (Bool.eq_false_iff.2 required)

/-- Which caller asks, and of which dataset, decides whether a query without a guard is noted or
guarded. -/
theorem enforce_alike (d : Dataset) (caller : Caller) :
    (∃ scope, ∀ {q r : Sql.Query}, q.guardedFor? = none → d.enforce caller q = .ok r →
      r = { q with scope }) ∨
    ∃ column, ∀ {q r : Sql.Query}, q.guardedFor? = none → d.enforce caller q = .ok r →
      r = q.guarded column caller.tenant := by
  cases admin : caller.isAdmin with
  | true =>
    refine .inl ⟨.bypassed caller.tenant, fun {q r} unguarded hr => ?_⟩
    have scoping := hr ▸ scoping_enforce d caller q
    cases scoping <;> simp_all
  | false =>
    cases columns : d.tenantColumn with
    | none =>
      refine .inl ⟨.unscoped caller.tenant, fun {q r} unguarded hr => ?_⟩
      have scoping := hr ▸ scoping_enforce d caller q
      cases scoping <;> simp_all
    | some column =>
      refine .inr ⟨⟨some d.aliasName, column⟩, fun {q r} unguarded hr => ?_⟩
      have scoping := hr ▸ scoping_enforce d caller q
      cases scoping <;> simp_all

/-- The condition on rows is a guard for a tenant, or one and another condition. -/
def Sql.Query.IsGuardedFor (q : Sql.Query) (tenant : String) : Prop :=
  ∃ column, q.selection = some (.guard column tenant) ∨
    ∃ rest, q.selection = some (.group .and [.guard column tenant, rest])

/-- What is decided for a caller about a query of a dataset. -/
inductive ScopedFor (d : Dataset) (caller : Caller) (q : Sql.Query) : Prop
  | bypassed : caller.isAdmin = true → q.scope = .bypassed caller.tenant → ScopedFor d caller q
  | guarded : caller.isAdmin = false → d.tenantColumn.isSome = true →
    q.scope = .enforced caller.tenant → q.IsGuardedFor caller.tenant → ScopedFor d caller q
  | unscoped : caller.isAdmin = false → d.tenantColumn = none →
    q.scope = .unscoped caller.tenant → ScopedFor d caller q

theorem isGuardedFor_guarded (q : Sql.Query) (column : Sql.Column) (tenant : String) :
    (q.guarded column tenant).IsGuardedFor tenant := by
  refine ⟨column, ?_⟩
  rw [Sql.Query.guarded]
  cases q.selection with
  | none => exact .inl rfl
  | some condition => exact .inr ⟨condition, rfl⟩

theorem scopedFor_enforce {caller : Caller} {compiled q : Sql.Query}
    (hcompile : d.compile c request = .ok compiled) (henforce : d.enforce caller compiled = .ok q) :
    ScopedFor d caller q := by
  have unguarded := guardedFor?_compile hcompile
  have scoping := scoping_enforce d caller compiled
  rw [henforce] at scoping
  cases scoping with
  | kept guard => cases unguarded.symm.trans guard
  | bypassed _ admin => exact .bypassed admin rfl
  | guarded _ admin column =>
    exact .guarded admin (column ▸ rfl) rfl (isGuardedFor_guarded ..)
  | unscoped _ admin column _ => exact .unscoped admin column rfl

/-- A query for a tenant that no administrator has asked for. -/
theorem ScopedFor.tenant {caller : Caller} {q : Sql.Query} (h : ScopedFor d caller q)
    (notAdmin : caller.isAdmin = false) :
    q.scope = .enforced caller.tenant ∨ q.scope = .unscoped caller.tenant := by
  cases h with
  | bypassed admin _ => exact absurd (notAdmin.symm.trans admin) (by decide)
  | guarded _ _ scope _ => exact .inl scope
  | unscoped _ _ scope => exact .inr scope

/-- Where tenants are told apart, the scope says so. -/
theorem ScopedFor.enforced {caller : Caller} {q : Sql.Query} (h : ScopedFor d caller q)
    (notAdmin : caller.isAdmin = false) (column : d.tenantColumn.isSome = true) :
    q.scope = .enforced caller.tenant := by
  cases h with
  | bypassed admin _ => exact absurd (notAdmin.symm.trans admin) (by decide)
  | guarded _ _ scope _ => exact scope
  | unscoped _ none _ =>
    rw [none] at column
    cases column

/-- A scope that is enforced for a tenant is by a guard. -/
theorem ScopedFor.isGuardedFor {caller : Caller} {q : Sql.Query} (h : ScopedFor d caller q)
    {tenant : String} (scope : q.scope = .enforced tenant) : q.IsGuardedFor tenant := by
  cases h with
  | bypassed _ bypassed => cases bypassed.symm.trans scope
  | guarded _ _ enforced guarded =>
    cases enforced.symm.trans scope
    exact guarded
  | unscoped _ _ unscoped => cases unscoped.symm.trans scope

/-! ## plans -/

/-- A plan is for a query that was compiled, scoped to the caller, and rendered. -/
theorem plan_eq_ok {caller : Caller} {p : Plan} :
    d.plan c caller request = .ok p ↔ ∃ compiled, d.compile c request = .ok compiled ∧
      d.enforce caller compiled = .ok p.query ∧ p.query.render = .ok p.sql ∧
      CacheKey.ofQuery p.query = .ok p.key := by
  unfold Dataset.plan
  constructor
  · intro h
    obtain ⟨compiled, hcompiled, h⟩ := bind_eq_ok.1 h
    obtain ⟨query, hquery, h⟩ := bind_eq_ok.1 h
    obtain ⟨sql, hsql, h⟩ := bind_eq_ok.1 h
    obtain ⟨key, hkey, h⟩ := bind_eq_ok.1 h
    cases h
    exact ⟨compiled, mapError_eq_ok.1 hcompiled, mapError_eq_ok.1 hquery, mapError_eq_ok.1 hsql,
      mapError_eq_ok.1 hkey⟩
  · rintro ⟨compiled, hcompiled, hquery, hsql, hkey⟩
    refine bind_eq_ok.2 ⟨compiled, mapError_eq_ok.2 hcompiled, ?_⟩
    refine bind_eq_ok.2 ⟨p.query, mapError_eq_ok.2 hquery, ?_⟩
    refine bind_eq_ok.2 ⟨p.sql, mapError_eq_ok.2 hsql, ?_⟩
    exact bind_eq_ok.2 ⟨p.key, mapError_eq_ok.2 hkey, rfl⟩

end AnalyticsGateway
