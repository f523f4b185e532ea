import AnalyticsGateway.ApiKeys
import AnalyticsGateway.Cache.Flight
import AnalyticsGateway.Compile.Ceilings
import AnalyticsGateway.RateLimit.Limiter
import AnalyticsGateway.Source.Engine

/-!
# Configurations

Everything that is set up before a gateway starts.
-/

namespace AnalyticsGateway

/-! ## Faults of a configuration -/

/-- Why a text is no whole number. -/
inductive NumeralFault where
  | empty | badDigit | tooLarge
deriving DecidableEq, Repr

def NumeralFault.message : NumeralFault → String
  | empty => "cannot parse integer from empty string"
  | badDigit => "invalid digit found in string"
  | tooLarge => "number too large to fit in target type"

inductive ConfigError where
  /-- The file or a value does not have the right form. -/
  | unreadable
  | badVariable (name value : String) (fault : NumeralFault)
  | longLease (leaseMilliseconds timeoutSeconds : Nat)
  | noPollInterval
  | defaultAboveMaximum
  | badBucket (name : String)
  | repeatedSource (id : String)
  | sharedSecret (keyId : String)
deriving DecidableEq, Repr

def ConfigError.message : ConfigError → String
  | unreadable => "The configuration cannot be read"
  | badVariable name value fault => s!"Invalid {name} '{value}': {fault.message}"
  | longLease leaseMilliseconds timeoutSeconds =>
    s!"cache.lease_ttl_ms ({leaseMilliseconds}) must be below query.timeout_secs ({timeoutSeconds}s)"
  | noPollInterval => "cache.poll_interval_ms must be positive"
  | defaultAboveMaximum => "query.default_limit must not exceed query.max_limit"
  | badBucket name =>
    s!"rate_limit.{name} needs a finite capacity >= 1 and a finite refill rate >= 0.001/s"
  | repeatedSource id => s!"Source '{id}' is defined twice"
  | sharedSecret keyId => s!"API key '{keyId}' reuses another key's secret"

inductive StoreBackend where
  | memory | sqlite
deriving DecidableEq, Repr, Inhabited

namespace StoreBackend

def name : StoreBackend → String
  | memory => "memory"
  | sqlite => "sqlite"

def named? (text : String) : Option StoreBackend := [memory, sqlite].find? fun b => b.name == text

end StoreBackend

structure Config where
  host : String
  port : Nat
  catalogPath : String
  backend : StoreBackend
  storePath : String
  purgeSeconds : Nat
  ttlSeconds : Nat
  leaseMilliseconds : Nat
  pollMilliseconds : Nat
  timeoutSeconds : Nat
  ceilings : Ceilings
  limiter : RateLimiter Float
  sources : List SourceSettings
  apiKeys : List ApiKey
  logLevel : String

namespace Config

def address (c : Config) : String := s!"{c.host}:{c.port}"

def timeToLive (c : Config) : Duration := .ofSeconds c.ttlSeconds

def queryTimeout (c : Config) : Duration := .ofSeconds c.timeoutSeconds

def lease (c : Config) : LeaseSettings :=
  { span := .ofMilliseconds c.leaseMilliseconds, poll := .ofMilliseconds c.pollMilliseconds }

/-! ## checks -/

/-- The slowest inflow of a bucket, in tokens each second. -/
def leastRate : Float := 0.001

def isSound (bucket : BucketSettings Float) : Bool :=
  bucket.capacity.isFinite && 1 ≤ bucket.capacity && bucket.rate.isFinite && leastRate ≤ bucket.rate

/-- The first value whose text has been seen before. -/
def repeated? {α : Type} (text : α → String) (seen : List String) : List α → Option α
  | [] => none
  | value :: rest =>
    if seen.contains (text value) then some value else repeated? text (text value :: seen) rest

/-- What the parts of a configuration ask of each other; the first fault is reported. -/
def validate (c : Config) : Except ConfigError Unit := do
  if c.queryTimeout ≤ c.lease.span then throw (.longLease c.leaseMilliseconds c.timeoutSeconds)
  if c.pollMilliseconds = 0 then throw .noPollInterval
  if c.ceilings.limit < c.ceilings.defaultLimit then throw .defaultAboveMaximum
  if !isSound c.limiter.query then throw (.badBucket "query")
  if !isSound c.limiter.metadata then throw (.badBucket "metadata")
  if let some source := repeated? SourceSettings.id [] c.sources then
    throw (.repeatedSource source.id)
  if let some key := repeated? ApiKey.key [] c.apiKeys then throw (.sharedSecret key.id)

end Config

end AnalyticsGateway
