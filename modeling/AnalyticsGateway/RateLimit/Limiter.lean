import AnalyticsGateway.Json.Reader
import AnalyticsGateway.Json.Record
import AnalyticsGateway.Json.Writer
import AnalyticsGateway.RateLimit.Bucket
import AnalyticsGateway.Store.Basic

/-!
# The rate limiter

Each API key has one bucket for each kind of request, kept in the shared store. An admission is one
update of its bucket, so that requests of all processes draw on the same tokens.
-/

namespace AnalyticsGateway

/-- The kinds of request that are limited apart from each other. -/
inductive Route where
  | query | metadata
deriving DecidableEq, Repr, Inhabited

namespace Route

def all : List Route := [.query, .metadata]

def name : Route → String
  | query => "query"
  | metadata => "metadata"

def named? (text : String) : Option Route := all.find? fun route => route.name == text

end Route

/-- How buckets are kept in a store. -/
structure BucketCodec (α β : Type) where
  encode : Bucket α → β
  decode : β → Except StoreError (Bucket α)

namespace Bucket

def fields : List Json.Field := [.needed "tokens" .float, .needed "updated_ms" .integer]

def toJson (b : Bucket Float) : Json :=
  .object [("tokens", .float b.tokens), ("updated_ms", .integer b.updated)]

def ofJson? (json : Json) : Option (Bucket Float) := do
  let r ← json.recordOf? fields
  return {
    tokens := ← r.required "tokens" Json.float?
    updated := ← r.required "updated_ms" Json.integer? }

def ofText? (text : String) : Option (Bucket Float) := do
  ofJson? (← (Json.readAs (.record "bucket" fields) text).toOption)

/-- Buckets as JSON texts. -/
def textCodec : BucketCodec Float String where
  encode b := b.toJson.compact
  decode text :=
    match ofText? text with
    | some b => .ok b
    | none => .error (.codec text)

/-- Buckets as they are. -/
def plainCodec (α : Type) : BucketCodec α (Bucket α) where
  encode b := b
  decode b := .ok b

end Bucket

structure RateLimiter (α : Type) where
  query : BucketSettings α
  metadata : BucketSettings α
deriving DecidableEq, Repr

namespace RateLimiter

variable {α β σ : Type}

def settings (limiter : RateLimiter α) : Route → BucketSettings α
  | .query => limiter.query
  | .metadata => limiter.metadata

/-- The key of a bucket in the store. -/
def bucketKey (route : Route) (apiKey : String) : String := s!"ratelimit:{route.name}:{apiKey}"

variable [Tokens α]

/-- The answer to a request and the value that is to be written, by the value in the store. -/
def decide (codec : BucketCodec α β) (settings : BucketSettings α) (now : Int) (stored : Option β) :
    Except StoreError (Admission × Option β) := do
  let previous ← stored.mapM codec.decode
  let (admission, bucket) := Bucket.take settings now previous
  return (admission, bucket.map codec.encode)

/-- Takes a token at a millisecond of the calendar, in one update of the store. The answer is the
one to the value that the update has met. -/
def takeTokenAt [SharedStore σ β] (limiter : RateLimiter α) (codec : BucketCodec α β)
    (c : Circumstances)
    (apiKey : String) (route : Route) (now : Int) (store : σ) : Except StoreError Admission × σ :=
  let settings := limiter.settings route
  let transition stored := (decide codec settings now stored).map (·.2)
  let (met, store) :=
    c.attempt .update
      (SharedStore.update c.now (bucketKey route apiKey) settings.idleTime? transition) store
  let admission := do
    let (admission, _) ← decide codec settings now (← (← met))
    return admission
  (admission, store)

/-- Takes a token now. -/
def takeToken [SharedStore σ β] (limiter : RateLimiter α) (codec : BucketCodec α β)
    (c : Circumstances)
    (apiKey : String) (route : Route) (store : σ) : Except StoreError Admission × σ :=
  limiter.takeTokenAt codec c apiKey route c.now.calendar store

end RateLimiter

end AnalyticsGateway
