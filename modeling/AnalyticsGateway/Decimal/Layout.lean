import AnalyticsGateway.Decimal.Shortest

/-!
# Written numbers

How a shortest decimal is laid out: with a point, or as a leading digit with a power of ten.
-/

namespace AnalyticsGateway

/-- The decisions of a number format. -/
structure NumberLayout where
  /-- Whether a number whose leading digit stands at this power of ten is written without an
  exponent. -/
  positional : Int → Bool
  /-- Whether a whole number ends in `.0`. -/
  pointed : Bool
  /-- Whether a positive exponent has a sign. -/
  signed : Bool

namespace NumberLayout

def zeros (n : Nat) : List Char := List.replicate n '0'

/-- The digits with the point after the first `whole` of them. -/
def withPoint (layout : NumberLayout) (digits : List Char) (whole : Int) : List Char :=
  let count : Int := digits.length
  if count ≤ whole then
    digits ++ zeros (whole - count).toNat ++ if layout.pointed then ['.', '0'] else []
  else if 0 < whole then digits.take whole.toNat ++ '.' :: digits.drop whole.toNat
  else '0' :: '.' :: zeros (-whole).toNat ++ digits

def integer (n : Int) : List Char :=
  if n < 0 then '-' :: Nat.toDigits 10 (-n).toNat else Nat.toDigits 10 n.toNat

def exponent (layout : NumberLayout) (n : Int) : List Char :=
  if layout.signed && 0 < n then '+' :: integer n else integer n

def scientific (layout : NumberLayout) (digits : List Char) (leading : Int) : List Char :=
  match digits with
  | [] => []
  | [d] => d :: 'e' :: layout.exponent leading
  | d :: rest => d :: '.' :: rest ++ 'e' :: layout.exponent leading

def decimal (layout : NumberLayout) (d : Decimal) : List Char :=
  let digits := Nat.toDigits 10 d.digits
  let whole : Int := d.exponent + digits.length
  if layout.positional (whole - 1) then layout.withPoint digits whole
  else layout.scientific digits (whole - 1)

/-- A number of either sign; the sign of a zero is written. -/
def write (layout : NumberLayout) (x : Float) : String :=
  if x.isNaN then "NaN"
  else
    let sign := if hasMinusSign x then ['-'] else []
    let magnitude :=
      if x.isInf then ['i', 'n', 'f']
      else if x == 0 then layout.withPoint ['0'] 1
      else layout.decimal (BinaryFraction.ofFloat x).shortest
    String.ofList (sign ++ magnitude)

/-- Numbers without an exponent, and whole ones without a point. -/
def plain : NumberLayout where
  positional _ := true
  pointed := false
  signed := false

end NumberLayout

end AnalyticsGateway
