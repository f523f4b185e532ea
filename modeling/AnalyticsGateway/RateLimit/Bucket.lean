import AnalyticsGateway.RateLimit.Tokens

/-!
# Token buckets

A bucket fills at a steady rate up to its capacity, and each admission takes one token. The rules
are pure: the bucket before and the time give the answer and the bucket after.
-/

namespace AnalyticsGateway

variable {α : Type}

inductive Admission where
  | allowed
  | denied (retryAfter : Duration)
deriving DecidableEq, Repr

structure BucketSettings (α : Type) where
  capacity : α
  /-- Tokens that flow in each second. -/
  rate : α
deriving DecidableEq, Repr

structure Bucket (α : Type) where
  tokens : α
  /-- The millisecond of the calendar up to which the inflow is counted. -/
  updated : Int
deriving DecidableEq, Repr

/-! ## the time since -/

namespace Bucket

variable {b : Bucket α} {now : Int}

/-- The milliseconds from a bucket's time to a later one, none to an earlier one. The difference is
taken in 64 bits: one that they do not hold wraps around. -/
def elapsed (b : Bucket α) (now : Int) : Int := max (wrapped (now - b.updated)) 0

theorem elapsed_nonneg (b : Bucket α) (now : Int) : 0 ≤ b.elapsed now := Int.le_max_right ..

theorem elapsed_eq (fits : FitsWord (now - b.updated)) :
    b.elapsed now = max (now - b.updated) 0 := by
  rw [elapsed, wrapped_eq_self fits]

theorem elapsed_of_le (le : b.updated ≤ now) (fits : FitsWord (now - b.updated)) :
    b.elapsed now = now - b.updated := by
  rw [elapsed_eq fits, Int.max_eq_left (Int.sub_nonneg_of_le le)]

/-- Unless its difference wraps around from below, a time counts for no more than it is ahead. -/
theorem elapsed_le (near : b.updated - now ≤ wordSize 63) :
    b.elapsed now ≤ max now b.updated - b.updated := by
  rcases Int.le_total b.updated now with ahead | back
  · have counted := wrapped_le (Int.sub_nonneg_of_le ahead)
    rw [elapsed]
    omega
  · have fits : FitsWord (now - b.updated) := by
      rw [FitsWord, wordSize_63] at *
      omega
    rw [elapsed_eq fits]
    omega

/-- A time whose difference wraps around from above counts as an earlier one. -/
theorem elapsed_of_far (far : wordSize 63 ≤ now - b.updated)
    (bound : now - b.updated < wordSize 64) : b.elapsed now = 0 :=
  Int.max_eq_right (Int.le_of_lt (wrapped_neg far bound))

end Bucket

/-! ## tokens -/

variable [Tokens α]

namespace BucketSettings

/-- Whether anything flows in. -/
def fills (settings : BucketSettings α) : Bool := Tokens.isBelow (Tokens.ofInt 0) settings.rate

/-- The longest time that an idle bucket is kept for; slower ones are kept for ever. -/
def longestIdle : Duration := .ofSeconds (7 * 24 * 60 * 60)

/-- A time after which an idle bucket is full: as long as it takes to fill, at least a second, and a
second more. -/
def idleTime? (settings : BucketSettings α) : Option Duration := do
  guard settings.fills
  let filling ← Tokens.seconds? (settings.capacity / settings.rate)
  let idle := (max filling (.ofSeconds 1)).add (.ofSeconds 1)
  guard (idle ≤ longestIdle)
  return idle

end BucketSettings

namespace Bucket

/-- A bucket that nobody has taken from. -/
def full (settings : BucketSettings α) (now : Int) : Bucket α := ⟨settings.capacity, now⟩

/-- The bucket with what has flowed in since; a time that lies back takes nothing out. -/
def refilled (b : Bucket α) (settings : BucketSettings α) (now : Int) : Bucket α :=
  let seconds : α := Tokens.ofInt (b.elapsed now) / Tokens.ofInt 1000
  ⟨Tokens.smaller (b.tokens + seconds * settings.rate) settings.capacity, max now b.updated⟩

/-- The bucket at a time; an absent one is full. -/
def current (previous : Option (Bucket α)) (settings : BucketSettings α) (now : Int) : Bucket α :=
  match previous with
  | some b => b.refilled settings now
  | none => full settings now

def hasToken (b : Bucket α) : Bool :=
  !Tokens.isBelow (b.tokens + Tokens.tolerance) (Tokens.ofInt 1 : α)

/-- The time until there is one whole token. -/
def wait (b : Bucket α) (settings : BucketSettings α) : Duration :=
  if settings.fills then
    let missing : α := Tokens.larger (Tokens.ofInt 1 - b.tokens) (Tokens.ofInt 0)
    (Tokens.seconds? (missing / settings.rate)).getD .max
  else .max

def spent (b : Bucket α) : Bucket α :=
  { b with tokens := Tokens.larger (b.tokens - Tokens.ofInt 1) (Tokens.ofInt 0) }

/-- Takes a token. A denial leaves the bucket as it is, without what has flowed in. -/
def take (settings : BucketSettings α) (now : Int) (previous : Option (Bucket α)) :
    Admission × Option (Bucket α) :=
  let b := Bucket.current previous settings now
  if b.hasToken then (.allowed, some b.spent) else (.denied (b.wait settings), none)

end Bucket

end AnalyticsGateway
