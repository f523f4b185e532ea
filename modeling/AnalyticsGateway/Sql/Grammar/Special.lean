import AnalyticsGateway.Sql.Grammar.Call
import AnalyticsGateway.Sql.Grammar.Operator
import AnalyticsGateway.Sql.Grammar.Type

/-!
# Special forms

Expressions that begin with a word of their own, and calls whose arguments are set off by words.
-/

namespace AnalyticsGateway.Sql.Grammar

open Take

/-- How tightly an operator of the dialect binds. -/
def strengthOf (binding : Binding) : Take Nat := return binding.strength (← read).family

namespace Special

variable (r : Rules)

/-- An expression in which only operators count that bind more tightly. -/
def within (binding : Binding) : Take Unit := do discard (r.expression (← strengthOf binding))

def branches : Take Unit := do
  if !(← keyword "WHEN") then
    r.any
    expectKeyword "WHEN"
  repeatWhile do
    r.any
    expectKeyword "THEN"
    r.any
    keyword "WHEN"
  afterKeyword "ELSE" r.any
  expectKeyword "END"

def convert : Take Unit := parenthesized do
  r.any
  if ← keyword "USING" then objectName
  else
    expectSign ","
    discard r.soleType
    afterKeywords ["CHARACTER", "SET"] objectName

def cast : Take Unit := parenthesized do
  r.any
  expectKeyword "AS"
  discard r.soleType
  afterKeyword "FORMAT" do
    value
    afterKeywords ["AT", "TIME", "ZONE"] value

def existence : Take Unit := parenthesized r.subquery

def extract : Take Unit := parenthesized do
  discard timeField
  if !(← keyword "FROM") then
    if ← among [.generic] then expectSign "," else mismatch
  r.any

/-- Rounding, to a unit of time or to so many decimals. -/
def rounding : Take Unit := parenthesized do
  r.any
  if ← keyword "TO" then discard timeField
  else if ← sign "," then
    expect fun token => token matches .number ..

def position : Take Operand := do
  let found ← attempt <| parenthesized do
    within r .range
    expectKeyword "IN"
    r.any
  if found.isSome then return .other
  else
    call r
    return .term

def substring : Take Unit := parenthesized do
  r.any
  if ← sign "," then r.any else afterKeyword "FROM" r.any
  if ← keyword "FOR" then r.any
  else if ← sign "," then r.any

def overlay : Take Unit := parenthesized do
  r.any
  expectKeyword "PLACING"
  r.any
  expectKeyword "FROM"
  r.any
  afterKeyword "FOR" r.any

def trim : Take Unit := parenthesized do
  discard (oneOf ["BOTH", "LEADING", "TRAILING"])
  r.any
  if ← keyword "FROM" then r.any
  else if ← among [.postgresql, .generic] then
    if ← sign "," then commaList r.any

def negation : Take Unit := do
  if ← keyword "EXISTS" then existence r else within r .negation

/-- A search for words in columns. -/
def search : Take Unit := do
  parenthesized (commaList objectName)
  expectKeyword "AGAINST"
  parenthesized do
    value
    if ← keywords ["IN", "NATURAL", "LANGUAGE", "MODE"] then
      discard (keywords ["WITH", "QUERY", "EXPANSION"])
    else if !(← keywords ["IN", "BOOLEAN", "MODE"]) then
      discard (keywords ["WITH", "QUERY", "EXPANSION"])

/-- A structure with the types of its fields or with their names. -/
def record : Take Unit := do
  let isTyped ← peekSign "<"
  if ← Types.fields r then mismatch
  parenthesized <| commaList do
    r.any
    afterKeyword "AS" (if isTyped then mismatch else name)

def pairs (key : Take Unit) : Take Unit := do
  expectSign "\x7b"
  commaListUntil "\x7d" do
    key
    expectSign ":"
    r.any

/-- What stands in braces: a call or a moment that is set off so, or pairs. -/
def braced : Take Operand := do
  let setOff := do
    expectSign "\x7b"
    if ← keyword "FN" then
      objectName
      call r
      expectSign "\x7d"
      return Operand.term
    match ← next with
    | .word "t" _ | .word "d" _ | .word "ts" _ => value
    | _ => mismatch
    expectSign "\x7d"
    return .other
  match ← attempt setOff with
  | some operand => return operand
  | none =>
    if ← among [.generic] then pairs r name else mismatch
    return .other

def array : Take Unit := commaListUntil "]" r.any

end Special

/-! ## by their first word -/

/-- Words that stand for a call without arguments in some dialects. -/
def sessionWords : List String := ["CURRENT_CATALOG", "CURRENT_USER", "SESSION_USER", "USER"]

def clockWords : List String :=
  ["CURRENT_TIMESTAMP", "CURRENT_TIME", "CURRENT_DATE", "LOCALTIME", "LOCALTIMESTAMP"]

def geometricWords : List String :=
  ["CIRCLE", "BOX", "PATH", "LINE", "LSEG", "POINT", "POLYGON"]

/-- The form behind a word, if the word begins one. -/
def specialForm? (r : Rules) (word : String) : Take (Option Operand) := do
  let other (part : Take Unit) : Take (Option Operand) := do
    part
    return some .other
  let term (part : Take Unit) : Take (Option Operand) := do
    part
    return some .term
  if clockWords.contains word then
    term do if ← sign "(" then discard (arguments r)
  else if sessionWords.contains word then
    if ← among [.postgresql, .generic] then return some .term else return none
  else match word with
    | "TRUE" | "FALSE" | "NULL" => return some .term
    | "CASE" => other (Special.branches r)
    | "CONVERT" => other (Special.convert r)
    | "TRY_CONVERT" => if ← among [.generic] then other (Special.convert r) else return none
    | "CAST" | "TRY_CAST" | "SAFE_CAST" => other (Special.cast r)
    | "EXISTS" => other (Special.existence r)
    | "EXTRACT" => other (Special.extract r)
    | "CEIL" | "FLOOR" => other (Special.rounding r)
    | "POSITION" => if ← peekSign "(" then return some (← Special.position r) else return none
    | "SUBSTR" | "SUBSTRING" => other (Special.substring r)
    | "OVERLAY" => other (Special.overlay r)
    | "TRIM" => other (Special.trim r)
    | "INTERVAL" => other (interval r)
    | "ARRAY" =>
      if ← sign "[" then other (Special.array r)
      else if ← peekSign "(" then term (parenthesized r.subquery)
      else return none
    | "NOT" => other (Special.negation r)
    | "MATCH" => if ← among [.mysql, .generic] then other Special.search else return none
    | "STRUCT" => if ← among [.generic] then other (Special.record r) else return none
    | "PRIOR" =>
      if (← read).place = .hierarchy then other (Special.within r .sum) else return none
    | "MAP" =>
      if (← among [.generic]) && (← peekSign "\x7b") then other (Special.pairs r r.any)
      else return none
    | _ =>
      if (← among [.postgresql]) && geometricWords.contains word then other value
      else return none

/-- Words that are no names where their form does not follow. -/
def reservedWords : List String := ["EXISTS", "INTERVAL", "STRUCT", "TRIM"]

end AnalyticsGateway.Sql.Grammar
