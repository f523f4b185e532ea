import AnalyticsGateway.Digest.Sha256
import AnalyticsGateway.Json.Writer
import AnalyticsGateway.Sql.Encoding
import AnalyticsGateway.Tenancy

/-!
# Cache keys

The key of a query is a digest of its canonical JSON text, so queries share one only if they are the
same query with the same scope.
-/

namespace AnalyticsGateway

structure CacheKey where
  text : String
deriving DecidableEq, Repr, Inhabited

namespace CacheKey

/-- Every key of the cache in a shared store begins with this. -/
def namePrefix : String := "qc:"

/-- The text that is hashed: the query with the version of its form. -/
def source (q : Sql.Query) : String :=
  (Json.object [("query", q.toJson), ("v", .integer 1)]).canonical.compact

/-- A query whose scope is undecided has no key. -/
def ofQuery (q : Sql.Query) : Except SecurityError CacheKey :=
  if q.scope = .undecided then .error .undecidedScope
  else .ok ⟨namePrefix ++ "v1:" ++ Sha256.hexDigest (source q)⟩

/-- Where the store keeps the result. -/
def entry (key : CacheKey) : String := key.text ++ ":entry"

/-- Where the store keeps the lease of the execution. -/
def lease (key : CacheKey) : String := key.text ++ ":lease"

end CacheKey

end AnalyticsGateway
