import AnalyticsGateway.Decimal.Value
import AnalyticsGateway.SortedMap

/-!
# JSON values

Numbers are whole numbers or machine numbers; objects keep the order and the repetitions in which
they were written. A value is canonical when the keys of its objects increase.
-/

namespace AnalyticsGateway

inductive Json where
  | null
  | boolean (value : Bool)
  | integer (value : Int)
  | float (value : Float)
  | text (value : String)
  | array (items : List Json)
  | object (fields : List (String × Json))
deriving Inhabited

namespace Json

mutual

/-- The same value with sorted keys, the last of equal keys being kept. -/
def canonical : Json → Json
  | .array items => .array (canonicalItems items)
  | .object fields => .object (SortedMap.ofList (canonicalFields fields)).entries
  | json => json

def canonicalItems : List Json → List Json
  | [] => []
  | item :: rest => item.canonical :: canonicalItems rest

def canonicalFields : List (String × Json) → List (String × Json)
  | [] => []
  | (name, value) :: rest => (name, value.canonical) :: canonicalFields rest

end

/-! ## reading a value as plain data -/

def text? : Json → Option String
  | .text value => some value
  | _ => none

def boolean? : Json → Option Bool
  | .boolean value => some value
  | _ => none

/-- A whole number below `2 ^ 64`; a number written with a point is none. -/
def natural? : Json → Option Nat
  | .integer n => if 0 ≤ n ∧ n < wordSize 64 then some n.toNat else none
  | _ => none

/-- A whole number of 64 bits with sign. -/
def integer? : Json → Option Int
  | .integer n => if -wordSize 63 ≤ n ∧ n < wordSize 63 then some n else none
  | _ => none

/-- The machine number nearest to a whole number. -/
def floatOfInteger (n : Int) : Float := Decimal.toSignedFloat (n < 0) ⟨n.natAbs, 0⟩

def float? : Json → Option Float
  | .float x => some x
  | .integer n => some (floatOfInteger n)
  | _ => none

/-- Reads every item of an array. -/
def list? {α : Type} (item? : Json → Option α) : Json → Option (List α)
  | .array items => items.mapM item?
  | _ => none

/-- Reads every value of an object. -/
def map? {α : Type} (value? : Json → Option α) : Json → Option (SortedMap α)
  | .object fields => do
    let entries ← fields.mapM fun field => return (field.1, ← value? field.2)
    return SortedMap.ofList entries
  | _ => none

/-- Null stands for an absent value. -/
def option? {α : Type} (value? : Json → Option α) : Json → Option (Option α)
  | .null => some none
  | json => (value? json).map some

/-- One of some names, alone or as the only key of an object with value null. -/
def name? {α : Type} (named? : String → Option α) : Json → Option α
  | .text name => named? name
  | .object [(name, .null)] => named? name
  | _ => none

/-! ## writing plain data -/

def ofNat (n : Nat) : Json := .integer n

def ofOption {α : Type} (toJson : α → Json) : Option α → Json
  | some value => toJson value
  | none => .null

def ofList {α : Type} (toJson : α → Json) (values : List α) : Json :=
  .array (values.map toJson)

def ofMap {α : Type} (toJson : α → Json) (values : SortedMap α) : Json :=
  .object (values.map toJson).entries

end Json

end AnalyticsGateway
