import AnalyticsGateway.Word

/-!
# Durations

Spans of time in whole nanoseconds, at most `2 ^ 64` seconds less one nanosecond.
-/

namespace AnalyticsGateway

structure Duration where
  nanoseconds : Nat
deriving DecidableEq, Repr, Inhabited

namespace Duration

instance : LE Duration := ⟨fun a b => a.nanoseconds ≤ b.nanoseconds⟩

instance : LT Duration := ⟨fun a b => a.nanoseconds < b.nanoseconds⟩

instance (a b : Duration) : Decidable (a ≤ b) :=
  inferInstanceAs (Decidable (a.nanoseconds ≤ b.nanoseconds))

instance (a b : Duration) : Decidable (a < b) :=
  inferInstanceAs (Decidable (a.nanoseconds < b.nanoseconds))

instance : Min Duration := ⟨fun a b => if a ≤ b then a else b⟩

instance : Max Duration := ⟨fun a b => if a ≤ b then b else a⟩

def zero : Duration := ⟨0⟩

def ofSeconds (n : Nat) : Duration := ⟨n * 1000000000⟩

def ofMilliseconds (n : Nat) : Duration := ⟨n * 1000000⟩

/-- The longest duration. -/
def max : Duration := ⟨wordSize 64 * 1000000000 - 1⟩

def seconds (d : Duration) : Nat := d.nanoseconds / 1000000000

def milliseconds (d : Duration) : Nat := d.nanoseconds / 1000000

/-- The nanoseconds beyond whole seconds. -/
def subsecond (d : Duration) : Nat := d.nanoseconds % 1000000000

def add (a b : Duration) : Duration := ⟨a.nanoseconds + b.nanoseconds⟩

/-- What is left of a duration; nothing of a shorter one. -/
def sub (a b : Duration) : Duration := ⟨a.nanoseconds - b.nanoseconds⟩

/-- Whole seconds, rounded up, as far as 64 bits go. -/
def secondsUp (d : Duration) : Nat :=
  if d.subsecond = 0 then d.seconds else min (d.seconds + 1) (wordSize 64 - 1)

/-! ## text -/

/-- The decimals of a fraction of `10 ^ places`, without zeros at the end. -/
def decimals (places fraction : Nat) : List Char :=
  let digits := Nat.toDigits 10 fraction
  let padded := List.replicate (places - digits.length) '0' ++ digits
  (padded.reverse.dropWhile (· = '0')).reverse

/-- In the largest unit that leaves a whole part. -/
def text (d : Duration) : String :=
  let (unit, places) :=
    if 1000000000 ≤ d.nanoseconds then ("s", 9)
    else if 1000000 ≤ d.nanoseconds then ("ms", 6)
    else if 1000 ≤ d.nanoseconds then ("µs", 3)
    else ("ns", 0)
  let whole := toString (d.nanoseconds / Nat.pow 10 places)
  match d.nanoseconds % Nat.pow 10 places with
  | 0 => whole ++ unit
  | fraction => whole ++ "." ++ String.ofList (decimals places fraction) ++ unit

end Duration

end AnalyticsGateway
