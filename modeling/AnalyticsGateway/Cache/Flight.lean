import AnalyticsGateway.Cache.Entry
import AnalyticsGateway.Cache.Key
import AnalyticsGateway.Error
import AnalyticsGateway.Moment

/-!
# Flights

A flight serves one key to all callers of a process that ask for it at the same time. It takes the
key's lease in the store, so that of all processes one runs the job; the others wait for its entry.
Each stage names the step that comes next.
-/

namespace AnalyticsGateway

structure LeaseSettings where
  span : Duration := .ofSeconds 10
  /-- How long to wait before the store is asked again. -/
  poll : Duration := .ofMilliseconds 50
deriving DecidableEq, Repr, Inhabited

/-- The time between renewals of a lease, a third of its span. -/
def LeaseSettings.renewal (s : LeaseSettings) : Duration :=
  max ⟨s.span.nanoseconds / 3⟩ (.ofMilliseconds 1)

/-- Rows, and whether they came from the store. -/
structure Served where
  rows : RowSet
  fromStore : Bool
deriving Inhabited

abbrev FlightResult := Except GatewayError Served

inductive FlightStage where
  /-- Claims the lease. -/
  | claiming
  /-- Looks for an entry that another process has published before the claim. -/
  | rechecking
  /-- Runs the job; with the lease, until the next renewal. -/
  | running (renewal : Option Instant)
  /-- Publishes an entry and gives up the lease. -/
  | publishing (entry : CacheEntry)
  /-- Gives up the lease. -/
  | releasing (result : FlightResult)
  /-- Lets another process work. -/
  | waiting (till : Instant)
  /-- Looks for the entry of the other process. -/
  | polling
  | landed (result : FlightResult)
  /-- Left by all callers before it landed. -/
  | deserted
deriving Inhabited

namespace FlightStage

/-- Whether the lease is given up for the flight if it is deserted. -/
def hasGuard : FlightStage → Bool
  | rechecking | running (some _) | publishing _ => true
  | _ => false

def isRunning : FlightStage → Bool
  | running _ => true
  | _ => false

def result? : FlightStage → Option FlightResult
  | landed result => some result
  | _ => none

/-- Whether the flight has a step to take at an instant. -/
def isReady (now : Instant) : FlightStage → Bool
  | claiming | rechecking | publishing _ | releasing _ | polling => true
  | running renewal => renewal.any (· ≤ now)
  | waiting till => till ≤ now
  | landed _ | deserted => false

/-- The instant that the flight waits for. -/
def wakeUp? : FlightStage → Option Instant
  | running renewal => renewal
  | waiting till => some till
  | _ => none

end FlightStage

/-- What a call asks for, with a job of type `ω` for the case that there is no entry. -/
structure CacheRequest (ω : Type) where
  process : Nat
  key : CacheKey
  /-- How long a result is good; for no time at all, nothing is cached. -/
  ttl : Duration
  /-- The latest instant to wait for another process. -/
  deadline : Instant
  job : ω

/-- A flight for what its first call asks for. -/
structure Flight (ω : Type) extends CacheRequest ω where
  /-- What the flight claims the lease with. -/
  owner : String
  started : Instant
  stage : FlightStage := .claiming

end AnalyticsGateway
