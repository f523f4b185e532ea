import AnalyticsGateway.SortedMap
import AnalyticsGateway.Store.Basic

/-!
# The store in memory

Slots with the instant at which their time is over, on the clock that measures spans. A slot whose
time is over stays where it is until it is overwritten or purged, and is not seen any more.
-/

namespace AnalyticsGateway

variable {β : Type}

structure Slot (β : Type) where
  value : β
  /-- When the slot's time is over; none for a slot that stays, as one does whose time ends after
  the last instant. -/
  expiry : Option Instant
deriving DecidableEq, Repr

def Slot.isLive (s : Slot β) (now : Instant) : Bool := s.expiry.all (now < ·)

structure MemoryStore (β : Type) where
  slots : SortedMap (Slot β) := .empty
deriving Inhabited

namespace MemoryStore

def live? (s : MemoryStore β) (now : Instant) (key : String) : Option (Slot β) :=
  (s.slots.get? key).filter (·.isLive now)

def value? (s : MemoryStore β) (now : Instant) (key : String) : Option β :=
  (s.live? now key).map Slot.value

/-- The live slots alone. -/
def livePart (s : MemoryStore β) (now : Instant) : MemoryStore β :=
  ⟨s.slots.filter fun _ slot => slot.isLive now⟩

def keys (s : MemoryStore β) (now : Instant) : List String := (s.livePart now).slots.keys

/-- The live keys that begin with a text. -/
def keysStartingWith (s : MemoryStore β) (now : Instant) (start : String) : List String :=
  (s.keys now).filter fun key => start.toList.isPrefixOf key.toList

def size (s : MemoryStore β) (now : Instant) : Nat := (s.livePart now).slots.size

def put (s : MemoryStore β) (key : String) (value : β) (expiry : Option Instant) : MemoryStore β :=
  ⟨s.slots.insert key ⟨value, expiry⟩⟩

def erase (s : MemoryStore β) (key : String) : MemoryStore β := ⟨s.slots.erase key⟩

def claim (now : Instant) (key : String) (owner : β) (span : Duration) (s : MemoryStore β) :
    Bool × MemoryStore β :=
  if (s.live? now key).isSome then (false, s) else (true, s.put key owner (now.after? span))

section Owners

variable [DecidableEq β]

def isHeld (s : MemoryStore β) (now : Instant) (key : String) (owner : β) : Bool :=
  s.value? now key == some owner

def renew (now : Instant) (key : String) (owner : β) (span : Duration) (s : MemoryStore β) :
    Bool × MemoryStore β :=
  if s.isHeld now key owner then (true, s.put key owner (now.after? span)) else (false, s)

def release (now : Instant) (key : String) (owner : β) (s : MemoryStore β) :
    Bool × MemoryStore β :=
  if s.isHeld now key owner then (true, s.erase key) else (false, s)

def publish (now : Instant) (entry : String) (value : β) (span : Duration) (lease : String)
    (owner : β) (s : MemoryStore β) : MemoryStore β :=
  ((s.put entry value (now.after? span)).release now lease owner).2

end Owners

def update (now : Instant) (key : String) (span : Option Duration) (transition : Transition β)
    (s : MemoryStore β) : Except StoreError (Option β) × MemoryStore β :=
  let current := s.value? now key
  match transition current with
  | .error e => (.error e, s)
  | .ok none => (.ok current, s)
  | .ok (some value) => (.ok current, s.put key value (span.bind now.after?))

def purge (now : Instant) (s : MemoryStore β) : Nat × MemoryStore β :=
  let kept := s.livePart now
  (s.slots.size - kept.slots.size, kept)

instance [DecidableEq β] : SharedStore (MemoryStore β) β where
  get now key s := s.value? now.clock key
  set now key value span s := s.put key value (now.clock.after? span)
  claim now := claim now.clock
  renew now := renew now.clock
  release now := release now.clock
  publish now := publish now.clock
  update now := update now.clock
  purge now := purge now.clock
  keys? now s := some (s.keys now.clock)

end MemoryStore

end AnalyticsGateway
