import AnalyticsGateway.Decimal.Shortest
import AnalyticsGateway.Word

/-!
# The machine number nearest to a decimal
-/

namespace AnalyticsGateway.Decimal

/-- The value of a run of decimal digits, after the digits already read. -/
def ofDigits (value : Nat) (digits : List Char) : Nat :=
  digits.foldl (fun n c => 10 * n + (c.toNat - '0'.toNat)) value

/-- The nearest machine number, an infinity beyond the largest. Decimals far outside its range are
told by their leading digit alone. -/
def toFloat (d : Decimal) : Float :=
  let leading : Int := d.exponent + (Nat.toDigits 10 d.digits).length
  if d.digits = 0 || leading < -400 then 0
  else if 400 < leading then 1 / 0
  else if d.exponent < 0 then Float.ofScientific d.digits true (-d.exponent).toNat
  else Float.ofScientific d.digits false d.exponent.toNat

def toSignedFloat (negative : Bool) (d : Decimal) : Float :=
  if negative then -d.toFloat else d.toFloat

/-! ## Numbers in two roundings

A decimal is read quickly by making a machine number of its leading digits, and multiplying or
dividing that by a power of ten. The result can miss the nearest machine number by its last place.
-/

/-- Whether a number of digits read so far has room for one more below `2 ^ 64`. -/
def hasRoom (value : Nat) (digit : Char) : Bool := ofDigits value [digit] < wordSize 64

/-- Takes further digits as long as they have room. After that, digits before the point only count
for the exponent, and digits behind it for nothing. -/
def takeDigits (beforePoint : Bool) (d : Decimal) : List Char → Decimal
  | [] => d
  | digit :: rest =>
    if hasRoom d.digits digit then
      let exponent := if beforePoint then d.exponent else d.exponent - 1
      takeDigits beforePoint ⟨ofDigits d.digits [digit], exponent⟩ rest
    else if beforePoint then ⟨d.digits, d.exponent + rest.length + 1⟩
    else d

/-- The leading digits of a decimal that is written with a point. -/
def leading (whole fraction : List Char) : Decimal :=
  takeDigits false (takeDigits true ⟨0, 0⟩ whole) fraction

def powerOfTen (n : Nat) : Float := toFloat ⟨1, n⟩

/-- The digits times the power of ten, each a machine number; none where that is too large. -/
def scaled? (d : Decimal) : Option Float :=
  let x := toFloat ⟨d.digits, 0⟩
  if d.digits = 0 then some x
  else if 308 < d.exponent then none
  else if 0 ≤ d.exponent then
    let scaled := x * powerOfTen d.exponent.toNat
    if scaled.isFinite then some scaled else none
  else
    let down := (-d.exponent).toNat
    if down ≤ 308 then some (x / powerOfTen down)
    else if down ≤ 616 then some (x / powerOfTen 308 / powerOfTen (down - 308))
    else some 0

end AnalyticsGateway.Decimal
