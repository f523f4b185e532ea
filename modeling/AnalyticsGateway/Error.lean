import AnalyticsGateway.Catalog.Validation
import AnalyticsGateway.Compile.Error
import AnalyticsGateway.Source.Error
import AnalyticsGateway.Sql.Dialect
import AnalyticsGateway.Store.Basic
import AnalyticsGateway.Tenancy

/-!
# Errors of the gateway

Every failure that a caller can meet, with its category, its code, its HTTP status, and the message
that may be shown.
-/

namespace AnalyticsGateway

inductive GatewayError where
  | compile (error : CompileError)
  | security (error : SecurityError)
  | render (error : Sql.RenderError)
  | rateLimited (retryAfter : Duration)
  | source (error : SourceError)
  | unknownSource (id : String)
  | timeout (after : Duration)
  | unauthorized (reason : String)
  | forbidden (reason : String)
  | catalog (error : CatalogError)
  | unavailable (reason : String)
  | internal (reason : String)
deriving DecidableEq, Repr

namespace GatewayError

/-- A failing store makes the gateway unavailable. -/
def ofStore (error : StoreError) : GatewayError := unavailable error.message

def message : GatewayError → String
  | compile error => error.message
  | security error => error.message
  | render error => error.message
  | rateLimited retryAfter => s!"Rate limit exceeded, retry after {retryAfter.secondsUp}s"
  | source error => error.message
  | unknownSource id => s!"Source '{id}' is not registered"
  | timeout after => s!"Query timed out after {after.text}"
  | unauthorized reason => s!"Unauthorized: {reason}"
  | forbidden reason => s!"Forbidden: {reason}"
  | catalog error => error.message
  | unavailable reason => s!"Shared store unavailable: {reason}"
  | internal reason => s!"Internal error: {reason}"

/-- What a caller may read: nothing of tenants, of the store or of internal faults. -/
def userMessage : GatewayError → String
  | security _ => "Access denied: the dataset's security configuration does not permit this query"
  | rateLimited retryAfter => s!"Too many requests, retry after {retryAfter.secondsUp} seconds"
  | unavailable _ => "Service temporarily unavailable"
  | internal _ => "Internal error"
  | error => error.message

def category : GatewayError → String
  | compile _ => "validation"
  | render .undecidedScope => "internal"
  | render _ => "validation"
  | security _ => "security_configuration"
  | rateLimited _ => "rate_limited"
  | source _ | unknownSource _ => "execution"
  | timeout _ => "timeout"
  | unauthorized _ => "unauthorized"
  | forbidden _ => "forbidden"
  | catalog _ => "configuration"
  | unavailable _ => "unavailable"
  | internal _ => "internal"

def compileCode : CompileError → String
  | .unknownDataset _ => "UNKNOWN_DATASET"
  | .unknownField .. => "UNKNOWN_FIELD"
  | .duplicateField _ => "DUPLICATE_FIELD"
  | .unsupportedOperator _ => "UNSUPPORTED_OPERATOR"
  | .invalidValue .. | .invalidFilter _ => "INVALID_FILTER"
  | .sortFieldNotSelected _ => "INVALID_SORT"
  | .tooComplex _ => "QUERY_TOO_COMPLEX"
  | .emptyRequest => "EMPTY_QUERY"

def renderCode : Sql.RenderError → String
  | .unsupported .. => "UNSUPPORTED_CONSTRUCT"
  | .unknownDialect _ => "UNKNOWN_DIALECT"
  | .invalidSql _ => "INVALID_SQL"
  | .undecidedScope => "UNENFORCED_QUERY"

def sourceCode : FailureKind → String
  | .connection => "EXECUTION_CONNECTION"
  | .credentials => "EXECUTION_AUTH"
  | .statement => "EXECUTION_SYNTAX"
  | .resource => "EXECUTION_RESOURCE"

def code : GatewayError → String
  | compile error => compileCode error
  | render error => renderCode error
  | security _ => "ACCESS_DENIED"
  | rateLimited _ => "RATE_LIMITED"
  | source error => sourceCode error.kind
  | unknownSource _ => "SOURCE_NOT_FOUND"
  | timeout _ => "QUERY_TIMEOUT"
  | unauthorized _ => "UNAUTHORIZED"
  | forbidden _ => "FORBIDDEN"
  | catalog _ => "CATALOG_ERROR"
  | unavailable _ => "UNAVAILABLE"
  | internal _ => "INTERNAL_ERROR"

def status : GatewayError → Nat
  | compile _ | render _ => 400
  | security _ | forbidden _ => 403
  | unauthorized _ => 401
  | rateLimited _ => 429
  | unknownSource _ => 404
  | source error => if error.kind = .statement then 400 else 502
  | timeout _ => 504
  | unavailable _ => 503
  | catalog _ | internal _ => 500

def retryAfter? : GatewayError → Option Duration
  | rateLimited retryAfter => some retryAfter
  | _ => none

end GatewayError

end AnalyticsGateway
