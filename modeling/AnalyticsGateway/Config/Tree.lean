import AnalyticsGateway.Decimal.Layout
import AnalyticsGateway.Decimal.Reader
import AnalyticsGateway.Json.Basic
import AnalyticsGateway.Text.Casing

/-!
# Settings in layers

Settings are trees. A later layer goes over an earlier one: tables entry by entry, all other values
as a whole. A value is taken for what its place asks for where it can be, as a text of digits for a
number.
-/

namespace AnalyticsGateway.Setting

/-! ## layers -/

def entriesOf : Json → List (String × Json)
  | .object fields => fields
  | _ => []

mutual

def overlay (lower : Json) : Json → Json
  | .object fields => .object (overlayEntries (entriesOf lower) fields)
  | value => value

def overlayEntries (lower : List (String × Json)) : List (String × Json) → List (String × Json)
  | [] => lower
  | (name, value) :: rest =>
    let below := (SortedMap.lookup name lower).getD .null
    overlayEntries (lower.filter (·.1 != name) ++ [(name, overlay below value)]) rest

end

/-- A value at the end of a path of names. -/
def atPath (path : List String) (value : Json) : Json :=
  path.foldr (fun name value => .object [(name, value)]) value

def isNamePart (c : Char) : Bool := c.isAlphanum || c = '_' || c = '-'

/-- The path that a name at the top of a file stands for: its parts between points. -/
def pathOf (name : String) : List String :=
  let parts := name.toList.splitOn '.'
  if parts.all fun part => !part.isEmpty && part.all isNamePart then parts.map String.ofList
  else [name]

/-- The tree of a file; the top of a file has to be a table. -/
def ofFile? : Json → Option Json
  | .object fields =>
    let layer (tree : Json) (field : String × Json) :=
      overlay tree (atPath (pathOf field.1) field.2)
    some (fields.foldl layer (.object []))
  | _ => none

/-! ## values -/

def text? : Json → Option String
  | .text value => some value
  | .boolean value => some (if value then "true" else "false")
  | .integer value => some (String.ofList (NumberLayout.integer value))
  | .float value => some (NumberLayout.plain.write value)
  | _ => none

/-- The words for yes and no, in any case. -/
def flag? (text : String) : Option Bool :=
  let word := Text.lowercase text
  if ["true", "on", "yes"].contains word then some true
  else if ["false", "off", "no"].contains word then some false
  else none

/-- The whole number nearest to a machine number, halves away from zero, within 64 bits. -/
def naturalOfFloat (x : Float) : Nat :=
  if x.isNaN || x ≤ 0 then 0
  else if !x.isFinite then wordSize 64 - 1
  else
    let f := BinaryFraction.ofFloat x
    let numerator := f.significand * Nat.pow 2 f.exponent.toNat
    let denominator := Nat.pow 2 (-f.exponent).toNat
    min ((2 * numerator + denominator) / (2 * denominator)) (wordSize 64 - 1)

def natural? : Json → Option Nat
  | .integer n =>
    if n < 0 then none
    else if n < wordSize 63 then some n.toNat
    else some (naturalOfFloat (Json.floatOfInteger n))
  | .float x => some (naturalOfFloat x)
  | .boolean value => some value.toNat
  | .text value => ((flag? value).map Bool.toNat).or (Decimal.naturalBelow? (wordSize 64) value)
  | _ => none

def float? : Json → Option Float
  | .boolean value => some (if value then 1 else 0)
  | .text value =>
    match flag? value with
    | some flag => some (if flag then 1 else 0)
    | none => Decimal.float? value
  | json => json.float?

/-- One of some names, alone or as the only key of a table. -/
def name? {α : Type} (named? : String → Option α) : Json → Option α
  | .text name | .object [(name, _)] => named? name
  | _ => none

end AnalyticsGateway.Setting
