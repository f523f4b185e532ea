import AnalyticsGateway.Proofs.Tenancy

/-!
# Scoping a query again

A compiled query may be scoped any number of times, to any callers and for any datasets. Whatever
the calls are, its only guard stands first and is for the tenant that it is enforced for, and from
then on nothing changes it (`scope_after`).
-/

namespace AnalyticsGateway

open Sql (Condition)

/-- The tenants of the guards in the condition on rows. -/
def Sql.Query.guards (q : Sql.Query) : List String :=
  (q.selection.map Condition.guards).getD []

/-- A call that scopes a query of a dataset to a caller. -/
structure ScopingCall where
  dataset : Dataset
  caller : Caller
deriving Inhabited

namespace ScopingCall

def result (call : ScopingCall) (q : Sql.Query) : Except SecurityError Sql.Query :=
  call.dataset.enforce call.caller q

/-- A call that fails leaves the query that there was. -/
def apply (q : Sql.Query) (call : ScopingCall) : Sql.Query :=
  match call.result q with
  | .ok next => next
  | .error _ => q

def run (q : Sql.Query) (calls : List ScopingCall) : Sql.Query := calls.foldl apply q

/-- The calls that succeed, in their order. -/
def successes (q : Sql.Query) : List ScopingCall → List ScopingCall
  | [] => []
  | call :: rest =>
    if (call.result q).isOk then call :: successes (apply q call) rest
    else successes (apply q call) rest

end ScopingCall

namespace Sql.Query

variable {q : Query}

theorem guardedFor?_eq (q : Query) : q.guardedFor? = q.guards.head? := by
  rw [guardedFor?, guards]
  cases q.selection <;> rfl

theorem guardedFor?_eq_none : q.guardedFor? = none ↔ q.guards = [] := by
  rw [guardedFor?_eq, List.head?_eq_none_iff]

/-! ## guards and scope -/

/-- Either there is no guard and the scope is not enforced, or there is one guard, at the front, for
the tenant that the scope is enforced for. -/
inductive IsScoped (q : Query) : Prop
  | unguarded : q.guards = [] → (∀ tenant, q.scope ≠ .enforced tenant) → IsScoped q
  | guarded (tenant : String) : q.guards = [tenant] → q.IsGuardedFor tenant →
    q.scope = .enforced tenant → IsScoped q

namespace IsScoped

theorem length_guards (h : q.IsScoped) : q.guards.length ≤ 1 := by
  cases h with
  | unguarded none _ => simp [none]
  | guarded tenant one _ _ => simp [one]

theorem mem_guards_iff (h : q.IsScoped) {tenant : String} :
    tenant ∈ q.guards ↔ q.scope = .enforced tenant := by
  cases h with
  | unguarded none scope => simp [none, scope]
  | guarded t one _ scope => simp [one, scope, eq_comm]

theorem isGuardedFor (h : q.IsScoped) {tenant : String} (mem : tenant ∈ q.guards) :
    q.IsGuardedFor tenant := by
  cases h with
  | unguarded none _ =>
    rw [none] at mem
    cases mem
  | guarded t one guarded _ =>
    rw [one, List.mem_singleton] at mem
    exact mem ▸ guarded

end IsScoped

theorem guards_guarded (none : q.guards = []) (column : Column) (tenant : String) :
    (q.guarded column tenant).guards = [tenant] := by
  rw [guards] at none
  rw [guards, guarded]
  cases hs : q.selection with
  | none => rfl
  | some condition =>
    rw [hs] at none
    change Condition.guards condition = [] at none
    simp [Condition.guards, Condition.guardsAll, none]

end Sql.Query

theorem isScoped_compile {d : Dataset} {c : Ceilings} {request : Request} {q : Sql.Query}
    (h : d.compile c request = .ok q) : q.IsScoped := by
  have scope : q.scope = .undecided := by
    obtain ⟨p, -, rfl⟩ := compile_eq_ok.1 h
    rfl
  exact .unguarded (Sql.Query.guardedFor?_eq_none.1 (guardedFor?_compile h))
    fun tenant enforced => nomatch scope.symm.trans enforced

/-! ## one call -/

namespace ScopingCall

variable {call : ScopingCall} {q r : Sql.Query}

theorem scoping_of_ok (succeeds : call.result q = .ok r) :
    Scoping call.dataset call.caller q (.ok r) :=
  succeeds ▸ scoping_enforce call.dataset call.caller q

theorem apply_of_ok (h : call.result q = .ok r) : apply q call = r := by
  rw [apply, h]

theorem apply_of_error {e : SecurityError} (h : call.result q = .error e) : apply q call = q := by
  rw [apply, h]

theorem isScoped_of_ok (h : q.IsScoped) (succeeds : call.result q = .ok r) : r.IsScoped := by
  cases scoping_of_ok succeeds with
  | kept _ => exact h
  | bypassed none _ => exact .unguarded (Sql.Query.guardedFor?_eq_none.1 none) nofun
  | guarded none _ _ =>
    have one := Sql.Query.guards_guarded (Sql.Query.guardedFor?_eq_none.1 none)
    exact .guarded _ (one ..) (isGuardedFor_guarded ..) rfl
  | unscoped none _ _ _ => exact .unguarded (Sql.Query.guardedFor?_eq_none.1 none) nofun

theorem isScoped_apply (h : q.IsScoped) (call : ScopingCall) : (apply q call).IsScoped := by
  cases result : call.result q with
  | ok r =>
    rw [apply_of_ok result]
    exact isScoped_of_ok h result
  | error e =>
    rw [apply_of_error result]
    exact h

/-- The scope after a call that succeeds is for its caller. -/
theorem tenant_of_ok (h : q.IsScoped) (succeeds : call.result q = .ok r) :
    r.scope.tenant? = some call.caller.tenant := by
  cases scoping_of_ok succeeds with
  | kept guard =>
    rw [Sql.Query.guardedFor?_eq] at guard
    rw [h.mem_guards_iff.1 (List.mem_of_head? guard), Sql.Scope.tenant?]
  | bypassed _ _ | guarded _ _ _ | unscoped _ _ _ _ => rfl

theorem result_of_enforced (h : q.IsScoped) {tenant : String} (scope : q.scope = .enforced tenant)
    (call : ScopingCall) :
    call.result q = if call.caller.tenant = tenant then .ok q else .error .otherTenant := by
  have guard : q.guardedFor? = some tenant := by
    cases h with
    | unguarded _ other => exact absurd scope (other tenant)
    | guarded t one _ enforced =>
      cases enforced.symm.trans scope
      rw [q.guardedFor?_eq, one, List.head?_singleton]
  rw [result, Dataset.enforce, guard]
  simp only [eq_comm]

theorem apply_of_enforced (h : q.IsScoped) {tenant : String} (scope : q.scope = .enforced tenant)
    (call : ScopingCall) : apply q call = q := by
  have result := result_of_enforced h scope call
  split at result
  · exact apply_of_ok result
  · exact apply_of_error result

/-- A call that has succeeded changes nothing when it is made again. -/
theorem result_again (succeeds : call.result q = .ok r) : call.result r = .ok r := by
  cases scoping_of_ok succeeds with
  | kept _ => exact succeeds
  | bypassed unguarded admin =>
    have same : Sql.Query.guardedFor? { q with scope := .bypassed call.caller.tenant } = none :=
      unguarded
    rw [result, Dataset.enforce, same]
    exact if_pos admin
  | guarded none _ _ =>
    rw [result, Dataset.enforce, Sql.Query.guardedFor?_eq,
      Sql.Query.guards_guarded (Sql.Query.guardedFor?_eq_none.1 none)]
    exact if_pos rfl
  | unscoped unguarded notAdmin column optional =>
    have same : Sql.Query.guardedFor? { q with scope := .unscoped call.caller.tenant } = none :=
      unguarded
    rw [result, Dataset.enforce, same]
    simp [notAdmin, column, optional]

/-- Queries that differ at most in the condition on rows and in the scope. -/
def SameRest (q r : Sql.Query) : Prop :=
  { r with selection := q.selection, scope := q.scope } = q

theorem sameRest_apply {start : Sql.Query} (h : SameRest start q) (call : ScopingCall) :
    SameRest start (apply q call) := by
  have scoping := scoping_enforce call.dataset call.caller q
  rw [← result] at scoping
  unfold apply
  generalize call.result q = result at scoping
  cases scoping <;> exact h

/-! ## all calls -/

theorem run_cons (q : Sql.Query) (call : ScopingCall) (rest : List ScopingCall) :
    run q (call :: rest) = run (apply q call) rest := rfl

theorem isScoped_run (h : q.IsScoped) (calls : List ScopingCall) : (run q calls).IsScoped := by
  induction calls generalizing q with
  | nil => exact h
  | cons call rest ih => exact ih (isScoped_apply h call)

theorem sameRest_run {start : Sql.Query} (h : SameRest start q) (calls : List ScopingCall) :
    SameRest start (run q calls) := by
  induction calls generalizing q with
  | nil => exact h
  | cons call rest ih => exact ih (sameRest_apply h call)

theorem run_of_enforced (h : q.IsScoped) {tenant : String} (scope : q.scope = .enforced tenant)
    (calls : List ScopingCall) : run q calls = q := by
  induction calls with
  | nil => rfl
  | cons call rest ih => rw [run_cons, apply_of_enforced h scope, ih]

/-- The scope is for the caller of the last call that succeeds, and without such a call it is for
the tenant that it was for. -/
theorem tenant_run (h : q.IsScoped) (calls : List ScopingCall) :
    (run q calls).scope.tenant? =
      ((successes q calls).getLast?.map (·.caller.tenant)).or q.scope.tenant? := by
  induction calls generalizing q with
  | nil => rfl
  | cons call rest ih =>
    rw [run_cons, ih (isScoped_apply h call), successes]
    cases result : call.result q with
    | ok r =>
      rw [apply_of_ok result, tenant_of_ok h result, Except.isOk, Except.toBool, if_pos rfl,
        List.getLast?_cons]
      cases (successes r rest).getLast? <;> rfl
    | error e =>
      rw [apply_of_error result]
      rfl

end ScopingCall

open ScopingCall in
/-- A compiled query after any calls has one guard at most, which stands first and is there exactly
when the scope is enforced for its tenant. The scope is for the caller of the last call that has
succeeded. A query that is enforced stays as it is, a call that has succeeded can be made again, and
nothing but the condition on rows and the scope ever changes. -/
theorem scope_after {d : Dataset} {c : Ceilings} {request : Request} {start : Sql.Query}
    (h : d.compile c request = .ok start) (calls : List ScopingCall) :
    let q := run start calls
    (q.guards.length ≤ 1 ∧ ∀ tenant ∈ q.guards, q.IsGuardedFor tenant) ∧
    (∀ tenant, tenant ∈ q.guards ↔ q.scope = .enforced tenant) ∧
    q.scope.tenant? = (successes start calls).getLast?.map (·.caller.tenant) ∧
    (∀ tenant, q.scope = .enforced tenant → ∀ (more : List ScopingCall) (call : ScopingCall),
      call.result (run q more) =
        if call.caller.tenant = tenant then .ok q else .error .otherTenant) ∧
    (∀ (call : ScopingCall) (r : Sql.Query), call.result q = .ok r → call.result r = .ok r) ∧
    { q with selection := start.selection, scope := start.scope } = start := by
  intro q
  have isScoped : q.IsScoped := isScoped_run (isScoped_compile h) calls
  refine ⟨⟨isScoped.length_guards, fun tenant => isScoped.isGuardedFor⟩,
    fun tenant => isScoped.mem_guards_iff, ?tenant, ?enforced, fun call r => result_again,
    ?rest⟩
  case rest =>
    have same : SameRest start start := rfl
    exact sameRest_run same calls
  case tenant =>
    have scope : start.scope = .undecided := by
      obtain ⟨p, -, rfl⟩ := compile_eq_ok.1 h
      rfl
    rw [tenant_run (isScoped_compile h) calls, scope, Sql.Scope.tenant?, Option.or_none]
  case enforced =>
    intro tenant scope more call
    rw [run_of_enforced isScoped scope more]
    exact result_of_enforced isScoped scope call

/-! ## two calls -/

namespace ScopingSample

def guardedOrders : Dataset := { orders with tenantColumn := some "tenant" }

/-- An administrator of one tenant, then an analyst of another. -/
def calls : List ScopingCall :=
  [⟨guardedOrders, "globex", .admin, "root"⟩, ⟨guardedOrders, "acme", .analyst, "reports"⟩]

end ScopingSample

open ScopingSample ScopingCall in
theorem scope_after_two_calls :
    ∃ start, guardedOrders.compile {} (ordersRequest nestedFilters) = .ok start ∧
      (run start calls).scope = .enforced "acme" ∧ (run start calls).IsGuardedFor "acme" ∧
      (run start calls).guards.length ≤ 1 ∧
      { run start calls with selection := start.selection, scope := start.scope } = start ∧
      ∀ call : ScopingCall, call.result (run start calls) =
        if call.caller.tenant = "acme" then .ok (run start calls) else .error .otherTenant := by
  obtain ⟨start, h⟩ := exists_compile.2
    (by decide : guardedOrders.accepts {} (ordersRequest nestedFilters) = true)
  obtain ⟨⟨one, first⟩, guard, -, enforced, -, rest⟩ := scope_after h calls
  have unguarded : start.selection.bind Condition.guardedFor? = none := guardedFor?_compile h
  have scope : (run start calls).scope = .enforced "acme" := by
    simp [run, calls, apply, result, Dataset.enforce, Sql.Query.guardedFor?, unguarded,
      guardedOrders, Caller.isAdmin, Sql.Query.guarded]
  exact ⟨start, h, scope, first _ ((guard _).2 scope), one, rest, enforced _ scope []⟩

end AnalyticsGateway
