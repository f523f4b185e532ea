import AnalyticsGateway.Decimal.Layout
import AnalyticsGateway.Json.Basic

/-!
# Writing JSON text

The compact form: no spaces, fields in the order of the value, characters beyond ASCII as they are.
-/

namespace AnalyticsGateway.Json

/-- Numbers keep a point, and are written with an exponent below `1e-5` and from `1e16`. -/
def numberLayout : NumberLayout where
  positional leading := -5 ≤ leading && leading ≤ 15
  pointed := true
  signed := true

def escapeChar (c : Char) : List Char :=
  match c with
  | '"' => ['\\', '"']
  | '\\' => ['\\', '\\']
  | '\x08' => ['\\', 'b']
  | '\x0c' => ['\\', 'f']
  | '\n' => ['\\', 'n']
  | '\r' => ['\\', 'r']
  | '\t' => ['\\', 't']
  | c =>
    if c.toNat < 0x20 then
      ['\\', 'u', '0', '0', Nat.digitChar (c.toNat / 16), Nat.digitChar (c.toNat % 16)]
    else [c]

def writeText (value : String) : List Char :=
  '"' :: value.toList.flatMap escapeChar ++ ['"']

/-- A number that is not finite has no written form and becomes null. -/
def writeFloat (x : Float) : List Char :=
  if x.isFinite then (numberLayout.write x).toList else ['n', 'u', 'l', 'l']

mutual

def write : Json → List Char
  | .null => ['n', 'u', 'l', 'l']
  | .boolean true => ['t', 'r', 'u', 'e']
  | .boolean false => ['f', 'a', 'l', 's', 'e']
  | .integer n => NumberLayout.integer n
  | .float x => writeFloat x
  | .text value => writeText value
  | .array items => '[' :: writeItems items
  | .object fields => '{' :: writeFields fields

/-- The items of an array up to its end. -/
def writeItems : List Json → List Char
  | [] => [']']
  | [item] => item.write ++ [']']
  | item :: rest => item.write ++ ',' :: writeItems rest

/-- The fields of an object up to its end. -/
def writeFields : List (String × Json) → List Char
  | [] => ['}']
  | [(name, value)] => writeText name ++ ':' :: value.write ++ ['}']
  | (name, value) :: rest => writeText name ++ ':' :: value.write ++ ',' :: writeFields rest

end

def compact (json : Json) : String := String.ofList json.write

end AnalyticsGateway.Json
