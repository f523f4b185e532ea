import AnalyticsGateway.Sql.Grammar.Name
import AnalyticsGateway.Sql.Grammar.Rules

/-!
# Types of data
-/

namespace AnalyticsGateway.Sql.Grammar

open Take

namespace Types

variable (r : Rules)

/-! ## what follows the name of a type -/

/-- A number of digits or characters in parentheses. -/
def precision : Take Unit := do
  if ← sign "(" then
    natural
    expectSign ")"

/-- A number of digits in parentheses, and how many of them are decimals. -/
def precisionAndScale : Take Unit := do
  if ← sign "(" then
    natural
    if ← sign "," then integer
    expectSign ")"

def length : Take Unit := do
  if ← sign "(" then
    if !(← keyword "MAX") then
      natural
      discard (oneOf ["CHARACTERS", "OCTETS"])
    expectSign ")"

def binaryLength : Take Unit := do
  if ← sign "(" then
    if !(← keyword "MAX") then natural
    expectSign ")"

def unsigned : Take Unit := discard (keyword "UNSIGNED")

/-- Whether a whole number has a sign. -/
def signedness : Take Unit := do
  if !(← keyword "UNSIGNED") then
    if ← among [.mysql, .generic] then discard (keyword "SIGNED")

def timeZone : Take Unit := do
  if (← oneOf ["WITH", "WITHOUT"]).isSome then expectKeywords ["TIME", "ZONE"]

/-- The fields of an interval, from the greatest to the least. -/
def intervalFields : Take Unit := do
  let upTo (fields : List String) : Take Unit := do
    if ← keyword "TO" then discard (expectOneOf fields)
  match ← oneOf ["YEAR", "DAY", "HOUR", "MINUTE", "MONTH", "SECOND"] with
  | some "YEAR" => upTo ["MONTH"]
  | some "DAY" => upTo ["HOUR", "MINUTE", "SECOND"]
  | some "HOUR" => upTo ["MINUTE", "SECOND"]
  | some "MINUTE" => upTo ["SECOND"]
  | _ => return

/-- What a type that is not of the language may have in parentheses. -/
def modifiers : Take Unit := do
  if ← sign "(" then
    repeatWhile do
      match ← next with
      | .word .. | .quotedName .. | .number .. | .literal .single _ | .sign "," => return true
      | .sign ")" => return false
      | _ => mismatch

/-- The members of an enumeration. -/
def members : Take Unit := parenthesized <| commaList do
  text
  if ← sign "=" then
    discard (sign "-")
    number

/-! ## types with types in them -/

/-- The angle bracket that closes a type, unless a type in it took a double one; whether a double
one is taken here. -/
def closing (isClosed : Bool) : Take Bool := do
  if isClosed then return false
  else if ← sign ">" then return false
  else
    expectSign ">>"
    return true

/-- Whether a name and something else follow. -/
def takesName : Take Bool := do
  let first ← peek
  let second ← peekAt 1
  return first.any Token.isName && second.any fun token => token.isName || isSign ":" token

/-- A field of a structure, with a name or without. -/
def field : Take Bool := do
  let isNamed ← takesName
  if isNamed then
    name
    discard (sign ":")
  return (← r.type).2

/-- The fields of a structure between angle brackets, and whether a double one closes them. -/
def fields : Take Bool := do
  if !(← sign "<") then return false
  let count := (← get).length + 1
  let rec more : Nat → Take Bool
    | 0 => tooDeep
    | n + 1 => do
      let isClosed ← field r
      if isClosed then return true
      else if ← sign "," then more n
      else return false
  closing (← more count)

def plainType : Take Unit := discard r.soleType

/-- Columns with their types, in parentheses. -/
def columns : Take Unit := parenthesized <| commaList do
  name
  plainType r

/-! ## all types -/

/-- Types that are no more than a word. -/
def bare : List String :=
  ["BOOLEAN", "BOOL", "FLOAT4", "FLOAT32", "FLOAT64", "FLOAT8", "INT16", "INT128", "INT256",
   "INT64", "UINT8", "UINT16", "UINT32", "UINT64", "UINT128", "UINT256", "HUGEINT", "UBIGINT",
   "UHUGEINT", "UINTEGER", "USMALLINT", "UTINYINT", "UUID", "DATE", "DATE32",
   "JSON", "JSONB", "REGCLASS", "TEXT", "TINYTEXT", "MEDIUMTEXT", "LONGTEXT", "TINYBLOB", "MEDIUMBLOB", "LONGBLOB", "BYTEA",
   "TRIGGER"]

/-- Types with a number of digits or characters. -/
def sized : List String :=
  ["CLOB", "BLOB", "BYTES", "VARBIT", "DATETIME", "TIMESTAMPTZ", "TIMESTAMP_NTZ", "TIMETZ",
   "STRING"]

/-- Whole numbers. -/
def whole : List String :=
  ["TINYINT", "INT2", "SMALLINT", "MEDIUMINT", "INT", "INT4", "INT8", "INTEGER", "BIGINT"]

/-- A type by the word it begins with, if it is one of the language; the word is taken. -/
def named? (word : String) : Take (Option (TypeForm × Bool)) := do
  let found (rest : Take Unit) : Take (Option (TypeForm × Bool)) := do
    rest
    return some (.other, false)
  let containing (content : Take Bool) : Take (Option (TypeForm × Bool)) := do
    return some (.other, ← content)
  if bare.contains word then found (return)
  else if sized.contains word then found precision
  else if whole.contains word then found do
    precision
    signedness
  else match word with
    | "FLOAT" | "DECIMAL" | "DEC" => found do
      precisionAndScale
      unsigned
    | "REAL" => found unsigned
    | "DOUBLE" => found do
      if !(← keyword "PRECISION") then precisionAndScale
      unsigned
    | "NUMERIC" | "BIGNUMERIC" | "BIGDECIMAL" => found precisionAndScale
    | "VARCHAR" | "NVARCHAR" => found length
    | "CHARACTER" | "CHAR" => found do
      if ← keyword "VARYING" then length
      else if ← keywords ["LARGE", "OBJECT"] then precision
      else length
    | "BINARY" =>
      precision
      return some (.binary, false)
    | "VARBINARY" => found binaryLength
    | "BIT" => found do
      discard (keyword "VARYING")
      precision
    | "DATETIME64" => found <| parenthesized do
      natural
      if ← sign "," then text
    | "TIMESTAMP" | "TIME" => found do
      precision
      timeZone
    | "INTERVAL" =>
      if ← among [.postgresql, .generic] then
        intervalFields
        precision
      return some (.interval, false)
    | "FIXEDSTRING" => found (parenthesized natural)
    | "ENUM" => found members
    | "ENUM8" | "ENUM16" => found members
    | "SET" => found (parenthesized (commaList text))
    | "ARRAY" => containing do
      expectSign "<"
      closing (← r.type).2
    | "TABLE" => found do if ← peekSign "(" then columns r
    | "SIGNED" | "UNSIGNED" => found (discard (keyword "INTEGER"))
    | "ANY" => if ← keyword "TYPE" then found (return) else return none
    | "TSVECTOR" | "TSQUERY" =>
      if ← among [.postgresql, .generic] then found (return) else return none
    | "BOX" | "CIRCLE" | "LINE" | "LSEG" | "PATH" | "POINT" | "POLYGON" =>
      if ← among [.postgresql] then found (return) else return none
    | _ =>
      if !(← among [.generic]) then return none
      match word with
      | "STRUCT" => containing (fields r)
      | "UNION" | "NESTED" => found (columns r)
      | "NULLABLE" | "LOWCARDINALITY" => found (parenthesized (plainType r))
      | "MAP" => found <| parenthesized do
        plainType r
        expectSign ","
        plainType r
      | "TUPLE" => found <| parenthesized <| commaList do discard (field r)
      | _ => return none

/-- Brackets behind a type, with the length of the array or without. -/
def brackets : Take Unit := do
  if ← among [.postgresql, .generic] then
    repeatWhile do
      if ← sign "[" then
        discard (attempt natural)
        expectSign "]"
        return true
      else return false

end Types

/-- A type of data, and whether it took the angle bracket that closes the type around it. -/
def dataType (r : Rules) : Take (TypeForm × Bool) := do
  let before ← get
  let token ← next
  let known ← match token.keyword? with
    | some word => Types.named? r word
    | none => pure none
  let form ← match known with
    | some form => pure form
    | none =>
      if !token.isName then mismatch
      set before
      objectName
      Types.modifiers
      pure (.custom, false)
  Types.brackets
  return form

end AnalyticsGateway.Sql.Grammar
