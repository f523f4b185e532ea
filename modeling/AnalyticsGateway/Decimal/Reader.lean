import AnalyticsGateway.Decimal.Value
import AnalyticsGateway.Text.Casing

/-!
# Numbers written by other programs

Whole numbers with an optional sign, and decimals with an optional sign, point and exponent, among
them infinities and the value that is no number.
-/

namespace AnalyticsGateway.Decimal

/-- The sign in front and the rest; whether it is a minus. -/
def signOf : List Char → Bool × List Char
  | '-' :: rest => (true, rest)
  | '+' :: rest => (false, rest)
  | chars => (false, chars)

/-- One or more digits and nothing else. -/
def natural? (chars : List Char) : Option Nat :=
  if chars.isEmpty || !chars.all Char.isDigit then none else some (ofDigits 0 chars)

/-- A whole number below a limit, without a sign or with a plus sign. -/
def naturalBelow? (limit : Nat) (text : String) : Option Nat := do
  let n ← natural? (match text.toList with
    | '+' :: digits => digits
    | digits => digits)
  guard (n < limit)
  return n

/-- A whole number of any size. -/
def integer? (text : String) : Option Int := do
  let (negative, digits) := signOf text.toList
  let n ← natural? digits
  return if negative then -n else n

/-- A whole number of 64 bits with sign. -/
def integer64? (text : String) : Option Int := do
  let n ← integer? text
  guard (-wordSize 63 ≤ n ∧ n < wordSize 63)
  return n

/-- The exponent behind its mark, if there is one; it takes the whole rest. -/
def power? : List Char → Option Int
  | [] => some 0
  | mark :: rest => do
    guard (mark = 'e' || mark = 'E')
    let (negative, digits) := signOf rest
    let n ← natural? digits
    return if negative then -n else n

/-- Digits around an optional point, of which there is at least one, and an optional exponent. -/
def unsigned? (chars : List Char) : Option Decimal := do
  let (whole, rest) := chars.span Char.isDigit
  let (fraction, rest) := match rest with
    | '.' :: rest => rest.span Char.isDigit
    | rest => ([], rest)
  guard (!(whole.isEmpty && fraction.isEmpty))
  return ⟨ofDigits 0 (whole ++ fraction), (← power? rest) - fraction.length⟩

/-- The nearest machine number; words for infinity and for no number are read in any case. -/
def float? (text : String) : Option Float := do
  let (negative, chars) := signOf text.toList
  let magnitude ← match Text.lowerAscii chars with
    | "inf" | "infinity" => some (1 / 0 : Float)
    | "nan" => some (0 / 0 : Float)
    | _ => (unsigned? chars).map toFloat
  return if negative then -magnitude else magnitude

end AnalyticsGateway.Decimal
