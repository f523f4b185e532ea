import AnalyticsGateway.SortedMap
import AnalyticsGateway.Store.Basic

/-!
# The store in a table

Rows of a database file with the millisecond of the calendar at which their time is over, in 64 bits
with sign. A claim takes over a row whose time is over; a release removes its owner's row also then.
-/

namespace AnalyticsGateway

variable {β : Type}

structure Row (β : Type) where
  value : β
  /-- When the row's time is over; none for a row that stays. -/
  expiry : Option Int
deriving DecidableEq, Repr

def Row.isLive (r : Row β) (now : Int) : Bool := r.expiry.all (now < ·)

structure TableStore (β : Type) where
  rows : SortedMap (Row β) := .empty
deriving Inhabited

namespace TableStore

/-- The last millisecond that a row can hold. -/
def lastMillisecond : Int := wordSize 63 - 1

/-- The millisecond after a span, or the last one. -/
def expiryAfter (now : Int) (span : Duration) : Int :=
  min (now + min (span.milliseconds : Int) lastMillisecond) lastMillisecond

def value? (s : TableStore β) (now : Int) (key : String) : Option β :=
  ((s.rows.get? key).filter (·.isLive now)).map Row.value

def put (s : TableStore β) (key : String) (value : β) (expiry : Option Int) : TableStore β :=
  ⟨s.rows.insert key ⟨value, expiry⟩⟩

def erase (s : TableStore β) (key : String) : TableStore β := ⟨s.rows.erase key⟩

def claim (now : Int) (key : String) (owner : β) (span : Duration) (s : TableStore β) :
    Bool × TableStore β :=
  let row : Row β := ⟨owner, some (expiryAfter now span)⟩
  match s.rows.get? key with
  | some old => if old.isLive now then (false, s) else (true, ⟨s.rows.insert key row⟩)
  | none => (true, ⟨s.rows.insert key row⟩)

section Owners

variable [DecidableEq β]

def renew (now : Int) (key : String) (owner : β) (span : Duration) (s : TableStore β) :
    Bool × TableStore β :=
  match s.rows.get? key with
  | some row =>
    if row.value = owner ∧ row.isLive now then
      (true, s.put key owner (some (expiryAfter now span)))
    else (false, s)
  | none => (false, s)

/-- Removes the row of an owner, also after its time. -/
def release (key : String) (owner : β) (s : TableStore β) : Bool × TableStore β :=
  match s.rows.get? key with
  | some row => if row.value = owner then (true, s.erase key) else (false, s)
  | none => (false, s)

def publish (now : Int) (entry : String) (value : β) (span : Duration) (lease : String) (owner : β)
    (s : TableStore β) : TableStore β :=
  ((s.put entry value (some (expiryAfter now span))).release lease owner).2

end Owners

def update (now : Int) (key : String) (span : Option Duration) (transition : Transition β)
    (s : TableStore β) : Except StoreError (Option β) × TableStore β :=
  let current := s.value? now key
  match transition current with
  | .error e => (.error e, s)
  | .ok none => (.ok current, s)
  | .ok (some value) => (.ok current, s.put key value (span.map (expiryAfter now)))

def purge (now : Int) (s : TableStore β) : Nat × TableStore β :=
  let kept := s.rows.filter fun _ row => row.isLive now
  (s.rows.size - kept.size, ⟨kept⟩)

instance [DecidableEq β] : SharedStore (TableStore β) β where
  get now key s := s.value? now.calendar key
  set now key value span s := s.put key value (some (expiryAfter now.calendar span))
  claim now := claim now.calendar
  renew now := renew now.calendar
  release _ := release
  publish now := publish now.calendar
  update now := update now.calendar
  purge now := purge now.calendar
  keys? _ _ := none

end TableStore

end AnalyticsGateway
