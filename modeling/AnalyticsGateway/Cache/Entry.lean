import AnalyticsGateway.Calendar
import AnalyticsGateway.Duration
import AnalyticsGateway.Json.Reader
import AnalyticsGateway.Json.Writer
import AnalyticsGateway.Result.Rows

/-!
# Entries of the cache

A result as it is kept in the store, with the time that it was made and for how long it is good.
-/

namespace AnalyticsGateway

structure CacheEntry where
  rows : RowSet
  /-- Nanoseconds of the calendar. -/
  created : Int
  seconds : Nat
deriving Inhabited

namespace CacheEntry

/-- A result made now; it is good for a second at least. -/
def new (rows : RowSet) (ttl : Duration) (now : Int) : CacheEntry := ⟨rows, now, max 1 ttl.seconds⟩

/-- A number of 64 bits taken as one with a sign. -/
def withSign (n : Nat) : Int := if n < wordSize 63 then n else n - wordSize 64

/-- A number brought within 64 bits with a sign. -/
def clamp (n : Int) : Int := max (-wordSize 63) (min n (wordSize 63 - 1))

/-- In milliseconds. -/
def lifetime (e : CacheEntry) : Int := clamp (withSign e.seconds * 1000)

/-- The age counts in whole milliseconds. -/
def isExpired (e : CacheEntry) (now : Int) : Bool := e.lifetime ≤ (now - e.created).tdiv 1000000

/-! ## in JSON -/

def fields : List Json.Field :=
  RowSet.fields ++
    [.needed "created_at"
      (.scalar ⟨"a moment", fun json => (json.text?.bind Calendar.ofText?).isSome, false⟩),
     .needed "ttl_secs" .natural]

def toJson (e : CacheEntry) : Json :=
  .object (e.rows.jsonFields ++
    [("created_at", .text (Calendar.text e.created)), ("ttl_secs", .ofNat e.seconds)])

def ofJson? (json : Json) : Option CacheEntry := do
  let r ← json.recordOf? fields
  return {
    rows :=
      { columns := ← r.required "columns" (Json.list? ColumnSchema.ofJson?)
        rows := ← r.required "rows" RowSet.rowsOfJson? }
    created := ← r.required "created_at" fun json => json.text?.bind Calendar.ofText?
    seconds := ← r.required "ttl_secs" Json.natural? }

def text (e : CacheEntry) : String := e.toJson.compact

def ofText? (text : String) : Option CacheEntry := do
  ofJson? (← (Json.readAs (.record "entry" fields) text).toOption)

end CacheEntry

end AnalyticsGateway
