import AnalyticsGateway.Json.Basic

/-!
# Counters of a cache
-/

namespace AnalyticsGateway

structure CacheStats where
  /-- Calls that were answered from the store. -/
  hits : Nat := 0
  /-- Calls that ran the query or failed. -/
  misses : Nat := 0
  /-- Entries that were found after their time. -/
  expirations : Nat := 0
  executions : Nat := 0
  /-- Calls that joined an execution in flight. -/
  coalesced : Nat := 0
  /-- Claims that another executor had won. -/
  leaseConflicts : Nat := 0
  /-- Failures of the store that the cache went around. -/
  storeErrors : Nat := 0
deriving DecidableEq, Repr, Inhabited

namespace CacheStats

/-- The part of the calls that were hits; zero before any call. -/
def hitRatio (s : CacheStats) : Float :=
  let total := s.hits + s.misses
  if total = 0 then 0 else Json.floatOfInteger s.hits / Json.floatOfInteger total

def toJson (s : CacheStats) : Json :=
  .object
    [("hits", .ofNat s.hits), ("misses", .ofNat s.misses), ("expirations", .ofNat s.expirations),
     ("executions", .ofNat s.executions), ("coalesced", .ofNat s.coalesced),
     ("lease_conflicts", .ofNat s.leaseConflicts), ("store_errors", .ofNat s.storeErrors)]

end CacheStats

end AnalyticsGateway
