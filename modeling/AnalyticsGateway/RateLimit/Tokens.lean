import AnalyticsGateway.Decimal.Shortest
import AnalyticsGateway.Duration
import AnalyticsGateway.Json.Basic

/-!
# Token counts

Tokens are counted in fractions. The rules of a bucket are the same for machine numbers and for
exact ones.
-/

namespace AnalyticsGateway

/-- The quotient rounded to the nearest whole number, halves to the even one. -/
def roundQuotient (numerator denominator : Nat) : Nat :=
  let below := numerator / denominator
  let rest := 2 * (numerator % denominator)
  if rest < denominator || (rest == denominator && below % 2 == 0) then below else below + 1

/-- The duration of a quotient of seconds to the nearest nanosecond, unless it is too long. -/
def Duration.ofQuotient? (numerator denominator : Nat) : Option Duration :=
  let d : Duration := ⟨roundQuotient (numerator * 1000000000) denominator⟩
  if d ≤ .max then some d else none

/-- Numbers that tokens are counted in. -/
class Tokens (α : Type) extends Add α, Sub α, Mul α, Div α where
  ofInt : Int → α
  /-- How much less than one token still counts as one. -/
  tolerance : α
  isBelow : α → α → Bool
  /-- The smaller of two, the other one where one is no number. -/
  smaller : α → α → α
  /-- The larger of two, the other one where one is no number. -/
  larger : α → α → α
  /-- That many seconds to the nearest nanosecond, unless they are negative, too many or no
  number. -/
  seconds? : α → Option Duration

/-- That many seconds; a number below half a nanosecond has none. -/
def Duration.ofFloat? (x : Float) : Option Duration :=
  if x == 0 then some .zero
  else if x.isFinite && 0 < x then
    let f := BinaryFraction.ofFloat x
    if f.exponent < 0 then ofQuotient? f.significand (Nat.pow 2 (-f.exponent).toNat)
    else if 64 < f.exponent then none
    else ofQuotient? (f.significand * Nat.pow 2 f.exponent.toNat) 1
  else none

instance : Tokens Float where
  ofInt := Json.floatOfInteger
  tolerance := 1e-9
  isBelow x y := x < y
  smaller x y := if x.isNaN then y else if y < x then y else x
  larger x y := if x.isNaN then y else if x < y then y else x
  seconds? := Duration.ofFloat?

instance : Tokens Rat where
  ofInt n := n
  tolerance := 1 / 1000000000
  isBelow x y := x < y
  smaller x y := if y < x then y else x
  larger x y := if x < y then y else x
  seconds? x := if x < 0 then none else Duration.ofQuotient? x.num.toNat x.den

end AnalyticsGateway
