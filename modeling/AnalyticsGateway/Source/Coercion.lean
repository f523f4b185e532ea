import AnalyticsGateway.Decimal.Reader
import AnalyticsGateway.Json.Basic

/-!
# Values that engines send as text

A text becomes a value of its column's declared type; one that does not read as such stays text.
-/

namespace AnalyticsGateway

/-- The name of a declared type in small letters, without its size and what follows a blank. -/
def baseType (dataType : String) : String :=
  Text.lowerAscii (dataType.toList.takeWhile fun c => c ≠ '(' && c ≠ ' ')

def integerTypes : List String :=
  ["int2", "int4", "int8", "smallint", "integer", "int", "bigint", "tinyint", "mediumint", "year",
   "long"]

def floatTypes : List String :=
  ["float4", "float8", "real", "float", "double", "numeric", "decimal"]

def booleanTypes : List String := ["bool", "boolean"]

/-- The value that a text has by its type, if it reads as one. -/
def typedValue? (dataType text : String) : Option Json :=
  let base := baseType dataType
  if integerTypes.contains base then (Decimal.integer64? text).map .integer
  else if floatTypes.contains base then do
    let x ← Decimal.float? text
    guard x.isFinite
    return .float x
  else if booleanTypes.contains base then
    if ["t", "true", "1"].contains text then some (.boolean true)
    else if ["f", "false", "0"].contains text then some (.boolean false)
    else none
  else none

def valueOfText (dataType : String) : Option String → Json
  | none => .null
  | some text => (typedValue? dataType text).getD (.text text)

end AnalyticsGateway
