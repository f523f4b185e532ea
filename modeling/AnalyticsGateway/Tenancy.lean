import AnalyticsGateway.Catalog.Dataset
import AnalyticsGateway.Json.Record

/-!
# Callers and row-level security

Who sends a request is a role within a tenant, known by an API key. A query is scoped to the
caller's tenant by a guard on the rows it reads. Administrators read past the guard; a query that is
guarded for one tenant is never handed to another.
-/

namespace AnalyticsGateway

/-! ## callers -/

inductive Role where
  | admin | analyst | viewer
deriving DecidableEq, Repr, Inhabited

namespace Role

def all : List Role := [.admin, .analyst, .viewer]

def name : Role → String
  | admin => "admin"
  | analyst => "analyst"
  | viewer => "viewer"

def named? (text : String) : Option Role := all.find? fun role => role.name == text

theorem named?_name (role : Role) : named? role.name = some role := by cases role <;> rfl

end Role

structure Caller where
  tenant : String
  role : Role
  keyId : String
deriving DecidableEq, Repr, Inhabited

namespace Caller

def isAdmin (c : Caller) : Bool := c.role == .admin

def fields : List Json.FieldName := [.needed "tenant_id", .needed "role", .needed "api_key_id"]

def toJson (c : Caller) : Json :=
  .object
    [("tenant_id", .text c.tenant), ("role", .text c.role.name), ("api_key_id", .text c.keyId)]

def ofJson? (json : Json) : Option Caller := do
  let r ← json.record? fields
  return {
    tenant := ← r.required "tenant_id" Json.text?
    role := ← r.required "role" (Json.name? Role.named?)
    keyId := ← r.required "api_key_id" Json.text? }

end Caller

/-! ## guards -/

inductive SecurityError where
  | noTenantColumn (dataset : String)
  | otherTenant
  | undecidedScope
deriving DecidableEq, Repr

def SecurityError.message : SecurityError → String
  | noTenantColumn dataset =>
    s!"Dataset '{dataset}' requires row-level security but has no tenant column configured"
  | otherTenant => "Compiled query is already scoped to a different tenant"
  | undecidedScope => "Compiled query has not passed row-level security enforcement"

namespace Sql.Query

/-- The query with a guard before its condition on rows. -/
def guarded (q : Query) (column : Column) (tenant : String) : Query :=
  let guard := Condition.guard column tenant
  { q with
    selection := match q.selection with
      | some condition => some (.group .and [guard, condition])
      | none => some guard
    scope := .enforced tenant }

end Sql.Query

/-- Scopes a query of a dataset to a caller. -/
def Dataset.enforce (d : Dataset) (caller : Caller) (q : Sql.Query) :
    Except SecurityError Sql.Query :=
  match q.guardedFor? with
  | some tenant => if tenant = caller.tenant then .ok q else .error .otherTenant
  | none =>
    if caller.isAdmin then .ok { q with scope := .bypassed caller.tenant }
    else match d.tenantColumn with
      | some column => .ok (q.guarded ⟨some d.aliasName, column⟩ caller.tenant)
      | none =>
        if d.tenancyRequired then .error (.noTenantColumn d.id)
        else .ok { q with scope := .unscoped caller.tenant }

end AnalyticsGateway
