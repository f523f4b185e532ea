import AnalyticsGateway.ApiKeys
import AnalyticsGateway.Gateway.Visit
import AnalyticsGateway.Http.Message
import AnalyticsGateway.Request.Encoding

/-!
# The HTTP interface

A request is answered at once, or it is a visit of the caller whose API key it bears. The caller is
made out as soon as the path is known, before the method and the body are looked at.
-/

namespace AnalyticsGateway

/-- What there is at a path. -/
inductive Endpoint where
  | health
  | query | explain | datasets
  | schema (source : List Char)
  | reload | stats
deriving DecidableEq, Repr, Inhabited

namespace Endpoint

def ofSegments? (segments : List (List Char)) : Option Endpoint :=
  match segments.map String.ofList with
  | ["health"] => some health
  | ["api", "query"] => some query
  | ["api", "explain"] => some explain
  | ["api", "datasets"] => some datasets
  | ["api", "sources", id, "schema"] => some (schema id.toList)
  | ["api", "catalog", "reload"] => some reload
  | ["api", "cache", "stats"] => some stats
  | _ => none

def method : Endpoint → String
  | query | explain | reload => "POST"
  | health | datasets | schema _ | stats => "GET"

/-- What can be read can also be asked for its headers alone. -/
def allows (e : Endpoint) (method : String) : Bool :=
  method == e.method || (method == "HEAD" && e.method == "GET")

end Endpoint

/-- A request to be carried out by a gateway. -/
structure HttpVisit where
  caller : Caller
  action : Action
deriving Inhabited

namespace HttpRequest

/-- The JSON body, or the response to one that is missing or does not fit. -/
def bodyRequest (r : HttpRequest) : Except HttpResponse Request :=
  if !r.saysJson then
    throw (.ofText 415 "Expected request with `Content-Type: application/json`")
  else
    match Request.ofText r.body with
    | .ok request => return request
    | .error (.malformed _) => throw (.ofText 400 "Failed to parse the request body as JSON")
    | .error (.unfit _) =>
      throw (.ofText 422 "Failed to deserialize the JSON body into the target type")

def action (r : HttpRequest) : Endpoint → Except HttpResponse Action
  | .health => throw (.ofText 200 "OK")
  | .query => return .query (← r.bodyRequest)
  | .explain => return .explain (← r.bodyRequest)
  | .datasets => return .listDatasets
  | .schema source =>
    match Text.Percent.decode? source with
    | some source => return .describe source
    | none => throw (.ofText 400 "Invalid URL")
  | .reload => return .reloadCatalog
  | .stats => return .cacheStats

def checkMethod (r : HttpRequest) (e : Endpoint) : Except HttpResponse Unit :=
  if e.allows r.method then return else throw (.ofText 405 "")

/-- The visit that a request stands for, or the response to one that is none. -/
def route (keys : ApiKeys) (r : HttpRequest) : Except HttpResponse HttpVisit := do
  if r.method == "OPTIONS" then throw (.ofText 200 "")
  match Endpoint.ofSegments? r.segments with
  | none => throw (.ofText 404 "")
  | some .health =>
    r.checkMethod .health
    throw (.ofText 200 "OK")
  | some endpoint =>
    let caller ← (keys.resolve (r.header? "authorization")).mapError .ofError
    r.checkMethod endpoint
    return ⟨caller, ← r.action endpoint⟩

/-- The response without a body to a request that asks for none. -/
def complete (r : HttpRequest) (response : HttpResponse) : HttpResponse :=
  if r.method == "HEAD" then response.bare else response

end HttpRequest

namespace HttpResponse

def ofAnswer : Except GatewayError Answer → HttpResponse
  | .ok (.result result) => .ofJson result.toJson
  | .ok (.explanation explanation) => .ofJson explanation.toJson
  | .ok (.datasets summaries) =>
    .ofJson (.object [("datasets", .ofList DatasetSummary.toJson summaries)])
  | .ok (.schema schema) => .ofJson schema.toJson
  | .ok (.version version) => .ofJson version.toJson
  | .ok (.stats stats) =>
    .ofJson (.object [("cache", stats.toJson), ("hit_ratio", .float stats.hitRatio)])
  | .error e => .ofError e

end HttpResponse

end AnalyticsGateway
