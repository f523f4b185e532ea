import AnalyticsGateway.Config.Basic
import AnalyticsGateway.Config.Tree
import AnalyticsGateway.Json.Reader

/-!
# Reading a configuration

A configuration is read from defaults, a file over them, and some variables of the environment over
both.
-/

namespace AnalyticsGateway.Config

def defaults : Json :=
  let bucket (capacity rate : Float) : Json :=
    .object [("capacity", .float capacity), ("refill_per_sec", .float rate)]
  .object
    [("server", .object [("host", .text "0.0.0.0"), ("port", .integer 3000)]),
     ("catalog", .object [("path", .text "./catalog.json")]),
     ("store", .object
       [("backend", .text "sqlite"), ("path", .text "./gateway-store.db"),
        ("purge_interval_secs", .integer 60)]),
     ("cache", .object
       [("default_ttl_secs", .integer 300), ("lease_ttl_ms", .integer 10000),
        ("poll_interval_ms", .integer 50)]),
     ("query", .object
       [("timeout_secs", .integer 30), ("default_limit", .integer 1000),
        ("max_limit", .integer 100000), ("max_dimensions", .integer 10),
        ("max_metrics", .integer 20), ("max_filter_depth", .integer 4),
        ("max_in_list", .integer 1000)]),
     ("rate_limit", .object [("query", bucket 20 5), ("metadata", bucket 60 10)]),
     ("logging", .object [("level", .text "info")])]

/-! ## parts -/

open Json (FieldName)

/-- The fields of a table, or of an array that holds them in their order. -/
def table? (names : List String) (json : Json) : Option Json.Record :=
  json.record? (names.map FieldName.needed)

def port? (json : Json) : Option Nat := do
  let port ← Setting.natural? json
  guard (port < wordSize 16)
  return port

def bucket? (json : Json) : Option (BucketSettings Float) := do
  let r ← table? ["capacity", "refill_per_sec"] json
  return ⟨← r.required "capacity" Setting.float?, ← r.required "refill_per_sec" Setting.float?⟩

def limiter? (json : Json) : Option (RateLimiter Float) := do
  let r ← table? ["query", "metadata"] json
  return { query := ← r.required "query" bucket?, metadata := ← r.required "metadata" bucket? }

def source? (json : Json) : Option SourceSettings := do
  let r ← json.record? SourceSettings.fields
  return {
    id := ← r.required "id" Setting.text?
    engine := ← r.required "engine" (Setting.name? Engine.named?)
    url := ← r.required "url" Setting.text?
    poolSize := ← r.getD "pool_size" Setting.natural? 16 }

def apiKey? (json : Json) : Option ApiKey := do
  let r ← json.record? ApiKey.fields
  return {
    id := ← r.required "id" Setting.text?
    key := ← r.required "key" Setting.text?
    tenant := ← r.required "tenant_id" Setting.text?
    role := ← r.required "role" (Setting.name? Role.named?) }

def ceilings? (query : Json.Record) : Option Ceilings := do
  return {
    dimensions := ← query.required "max_dimensions" Setting.natural?
    metrics := ← query.required "max_metrics" Setting.natural?
    filterDepth := ← query.required "max_filter_depth" Setting.natural?
    limit := ← query.required "max_limit" Setting.natural?
    defaultLimit := ← query.required "default_limit" Setting.natural?
    listLength := ← query.required "max_in_list" Setting.natural? }

def queryFields : List String :=
  ["timeout_secs", "default_limit", "max_limit", "max_dimensions", "max_metrics",
   "max_filter_depth", "max_in_list"]

def fields : List FieldName :=
  (["server", "catalog", "store", "cache", "query", "rate_limit"].map FieldName.needed) ++
    [.defaulted "sources", .defaulted "api_keys", .needed "logging"]

/-- The configuration that a tree of settings describes. -/
def ofTree? (tree : Json) : Option Config := do
  let r ← tree.record? fields
  let server ← r.required "server" (table? ["host", "port"])
  let catalog ← r.required "catalog" (table? ["path"])
  let store ← r.required "store" (table? ["backend", "path", "purge_interval_secs"])
  let cache ← r.required "cache" (table? ["default_ttl_secs", "lease_ttl_ms", "poll_interval_ms"])
  let query ← r.required "query" (table? queryFields)
  let logging ← r.required "logging" (table? ["level"])
  return {
    host := ← server.required "host" Setting.text?
    port := ← server.required "port" port?
    catalogPath := ← catalog.required "path" Setting.text?
    backend := ← store.required "backend" (Setting.name? StoreBackend.named?)
    storePath := ← store.required "path" Setting.text?
    purgeSeconds := ← store.required "purge_interval_secs" Setting.natural?
    ttlSeconds := ← cache.required "default_ttl_secs" Setting.natural?
    leaseMilliseconds := ← cache.required "lease_ttl_ms" Setting.natural?
    pollMilliseconds := ← cache.required "poll_interval_ms" Setting.natural?
    timeoutSeconds := ← query.required "timeout_secs" Setting.natural?
    ceilings := ← ceilings? query
    limiter := ← r.required "rate_limit" limiter?
    sources := ← r.getD "sources" (Json.list? source?) []
    apiKeys := ← r.getD "api_keys" (Json.list? apiKey?) []
    logLevel := ← logging.required "level" Setting.text? }

/-! ## the environment -/

/-- The number that digits have after some digits; the first digit that is bad or has no room
decides. -/
def numeralFrom (bound value : Nat) : List Char → Except NumeralFault Nat
  | [] => return value
  | c :: rest => do
    if !c.isDigit then throw .badDigit
    let value := Decimal.ofDigits value [c]
    if bound ≤ value then throw .tooLarge
    numeralFrom bound value rest

/-- A whole number below a bound, maybe with a plus in front. -/
def numeral (bound : Nat) (text : String) : Except NumeralFault Nat :=
  match text.toList with
  | [] => throw .empty
  | ['+'] => throw .badDigit
  | '+' :: digits | digits => numeralFrom bound 0 digits

/-- How a variable of the environment is taken. -/
inductive VariableKind where
  | text
  | numeral (bound : Nat)

/-- The variables that are heeded, in the order in which they are read, and what each of them
sets. -/
def environmentVariables : List (String × List String × VariableKind) :=
  [("HOST", ["server", "host"], .text),
   ("PORT", ["server", "port"], .numeral (wordSize 16)),
   ("CATALOG_PATH", ["catalog", "path"], .text),
   ("STORE_BACKEND", ["store", "backend"], .text),
   ("STORE_PATH", ["store", "path"], .text),
   ("QUERY_TIMEOUT_SECS", ["query", "timeout_secs"], .numeral (wordSize 64)),
   ("RUST_LOG", ["logging", "level"], .text)]

/-- The checked value of a variable; it is set as it is written. -/
def variableValue (name value : String) : VariableKind → Except ConfigError Json
  | .text => return .text value
  | .numeral bound =>
    ((numeral bound value).map fun _ => .text value).mapError (.badVariable name value)

/-- The layer that the environment sets. -/
def environmentLayer (environment : SortedMap String) : Except ConfigError Json :=
  environmentVariables.foldlM (fun layer (name, path, kind) => do
    match environment.get? name with
    | none => return layer
    | some value =>
      return Setting.overlay layer (Setting.atPath path (← variableValue name value kind)))
    (.object [])

/-- A text without the mark of its byte order. -/
def unmarked (text : String) : String :=
  match text.toList with
  | '\uFEFF' :: rest => String.ofList rest
  | _ => text

/-- The layer of a file, if there is one. -/
def fileLayer : Option String → Except ConfigError Json
  | none => return .object []
  | some text =>
    match (Json.read? (unmarked text)).bind fun json => Setting.ofFile? json.canonical with
    | some layer => return layer
    | none => throw .unreadable

/-- The configuration of a file and an environment, if it passes all checks. -/
def load (file : Option String) (environment : SortedMap String) : Except ConfigError Config := do
  let above ← environmentLayer environment
  let below ← fileLayer file
  match ofTree? (Setting.overlay (Setting.overlay defaults below) above) with
  | none => throw .unreadable
  | some config =>
    config.validate
    return config

end AnalyticsGateway.Config
