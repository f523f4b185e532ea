import AnalyticsGateway.Word

/-!
# The shortest decimal that reads back

A finite binary fraction stands for every real number that rounds to it. Of the decimals among
those, `shortest` picks one on the coarsest power-of-ten grid that has one, the nearer where there
are two.
All comparisons are of natural numbers.
-/

namespace AnalyticsGateway

/-- The number `digits · 10 ^ exponent`. -/
structure Decimal where
  digits : Nat
  exponent : Int
deriving DecidableEq, Repr

/-- The positive number `significand · 2 ^ exponent`; at the lower end of a binade the next smaller
number is only half a step away. -/
structure BinaryFraction where
  significand : Nat
  exponent : Int
  startsBinade : Bool
deriving DecidableEq, Repr

namespace BinaryFraction

/-- The number and the two ends of the interval that rounds to it, as numerators over one
denominator. -/
structure Interval where
  low : Nat
  value : Nat
  high : Nat
  denominator : Nat

/-- Ends are half a step away; both belong to the interval iff the significand is even. -/
def interval (x : BinaryFraction) : Interval :=
  let scale := Nat.pow 2 (x.exponent - 2).toNat
  { low := (4 * x.significand - if x.startsBinade then 1 else 2) * scale
    value := 4 * x.significand * scale
    high := (4 * x.significand + 2) * scale
    denominator := Nat.pow 2 (2 - x.exponent).toNat }

/-- The interval in units of `10 ^ exponent`. -/
def Interval.inUnits (i : Interval) (exponent : Int) : Interval :=
  let up := Nat.pow 10 (-exponent).toNat
  { low := i.low * up
    value := i.value * up
    high := i.high * up
    denominator := i.denominator * Nat.pow 10 exponent.toNat }

def Interval.holds (i : Interval) (closed : Bool) (n : Nat) : Bool :=
  let point := n * i.denominator
  if closed then i.low ≤ point && point ≤ i.high else i.low < point && point < i.high

/-- Of the two multiples of `10 ^ exponent` around the number, the one in the interval that is
nearer to it; an exact tie goes to the even one. -/
def onGrid? (x : BinaryFraction) (exponent : Int) : Option Decimal :=
  let i := x.interval.inUnits exponent
  let closed := x.significand % 2 == 0
  let below := i.value / i.denominator
  let rest := 2 * (i.value % i.denominator)
  let above := below + 1
  match i.holds closed below, i.holds closed above with
  | true, true =>
    let up := i.denominator < rest || (rest == i.denominator && below % 2 == 1)
    some ⟨if up then above else below, exponent⟩
  | true, false => some ⟨below, exponent⟩
  | false, true => some ⟨above, exponent⟩
  | false, false => none

/-- An exponent of ten above the number: `30103 / 100000` is a little over the logarithm of two. -/
def exponentAbove (x : BinaryFraction) : Int :=
  (x.exponent + x.significand.log2 + 1) * 30103 / 100000 + 1

/-- The first grid with a hit, from the coarsest; the number itself is its last resort. -/
def shortest (x : BinaryFraction) : Decimal :=
  let grids := (List.range 24).map fun (n : Nat) => x.exponentAbove - n
  match grids.findSome? x.onGrid? with
  | some d => d
  | none =>
    let digits := x.significand * Nat.pow 2 x.exponent.toNat * Nat.pow 5 (-x.exponent).toNat
    ⟨digits, min x.exponent 0⟩

/-- The magnitude of a finite number other than zero, by the fields of its binary form. -/
def ofFloat (x : Float) : BinaryFraction :=
  let bits := x.toBits.toNat
  let fraction := bits % wordSize 52
  match bits / wordSize 52 % wordSize 11 with
  | 0 => ⟨fraction, -1074, false⟩
  | field => ⟨wordSize 52 + fraction, field - 1075, fraction == 0 && field != 1⟩

end BinaryFraction

/-- Whether the sign bit is set, also of a zero. -/
def hasMinusSign (x : Float) : Bool := x.toBits.toNat / wordSize 63 == 1

end AnalyticsGateway
