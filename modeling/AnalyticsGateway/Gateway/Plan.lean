import AnalyticsGateway.Cache.Key
import AnalyticsGateway.Compile.Query
import AnalyticsGateway.Error
import AnalyticsGateway.Sql.Render

/-!
# Plans

A request of a caller is planned in full before anything is run: compiled, scoped to the caller's
tenant, rendered, and given its key in the cache.
-/

namespace AnalyticsGateway

structure Plan where
  query : Sql.Query
  sql : Sql.Rendered
  key : CacheKey

/-- Plans a request; the first failure is the caller's. -/
def Dataset.plan (d : Dataset) (ceilings : Ceilings) (caller : Caller) (request : Request) :
    Except GatewayError Plan := do
  let query ← (d.compile ceilings request).mapError .compile
  let query ← (d.enforce caller query).mapError .security
  let sql ← query.render.mapError .render
  let key ← (CacheKey.ofQuery query).mapError .security
  return ⟨query, sql, key⟩

/-! ## explanations -/

/-- What would be run for a request. -/
structure Explanation where
  sql : String
  dialect : Dialect
  tables : List String
  warnings : List String
  key : CacheKey
deriving DecidableEq, Repr, Inhabited

namespace Plan

def scopeWarnings : Sql.Scope → List String
  | .bypassed .. => ["Row-level security is bypassed for this admin caller"]
  | .unscoped .. => ["Dataset has no tenant column; rows are not filtered by tenant"]
  | _ => []

def warnings (p : Plan) (request : Request) (isCached : Bool) : List String :=
  scopeWarnings p.query.scope ++
  (if isCached then [] else ["Caching is disabled for this dataset"]) ++
  (if request.limit.isSome then []
   else [s!"No limit given; the default limit of {p.query.limit} rows applies"]) ++
  (if p.query.offset.isSome && p.query.order.isEmpty then
    ["Offset without a sort order gives unstable pages"]
   else [])

def explanation (p : Plan) (request : Request) (isCached : Bool) : Explanation :=
  ⟨p.sql.text, p.sql.dialect, p.query.tables, p.warnings request isCached, p.key⟩

end Plan

namespace Explanation

def toJson (e : Explanation) : Json :=
  .object
    [("sql", .text e.sql), ("dialect", .text e.dialect.name),
     ("tables_used", .ofList .text e.tables),
     ("warnings", .ofList .text e.warnings), ("cache_key", .text e.key.text)]

end Explanation

end AnalyticsGateway
