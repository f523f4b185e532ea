import AnalyticsGateway.Sql.Grammar.Name
import AnalyticsGateway.Sql.Grammar.Rules

/-!
# Calls of functions

The arguments of a call, what may follow them, and the orders and windows that they are given.
-/

namespace AnalyticsGateway.Sql.Grammar

open Take

variable (r : Rules)

/-! ## orders -/

def direction : Take Unit := do
  discard (oneOf ["ASC", "DESC"])
  if !(← keywords ["NULLS", "FIRST"]) then discard (keywords ["NULLS", "LAST"])

def orderItem : Take Unit := do
  r.any
  direction
  if ← among [.generic] then
    if ← keywords ["WITH", "FILL"] then
      afterKeyword "FROM" r.any
      afterKeyword "TO" r.any
      afterKeyword "STEP" r.any

def orderList : Take Unit := commaList (orderItem r)

/-! ## units of time -/

/-- Units that an interval is counted in. -/
def intervalUnits : List String :=
  ["YEAR", "YEARS", "MONTH", "MONTHS", "WEEK", "WEEKS", "DAY", "DAYS", "HOUR", "HOURS", "MINUTE",
   "MINUTES", "SECOND", "SECONDS", "CENTURY", "DECADE", "DOW", "DOY", "EPOCH", "ISODOW", "ISOYEAR",
   "JULIAN", "MICROSECOND", "MICROSECONDS", "MILLENIUM", "MILLENNIUM", "MILLISECOND",
   "MILLISECONDS", "NANOSECOND", "NANOSECONDS", "QUARTER", "TIMEZONE", "TIMEZONE_HOUR",
   "TIMEZONE_MINUTE"]

/-- Parts of a moment. -/
def timeFields : List String :=
  intervalUnits ++
    ["DAYOFWEEK", "DAYOFYEAR", "DATE", "DATETIME", "TIME", "TIMEZONE_ABBR", "TIMEZONE_REGION"]

/-- A part of a moment, and whether it is the second. Some dialects take any name for one. -/
def timeField : Take Bool := do
  match ← next with
  | .word _ keyword =>
    if timeFields.contains keyword then
      if keyword == "WEEK" then
        if ← among [.generic] then
          if ← sign "(" then
            name
            expectSign ")"
      return keyword == "SECOND"
    else if ← among [.postgresql, .generic] then return false
    else mismatch
  | .quotedName .. | .literal .single _ =>
    if ← among [.postgresql, .generic] then return false else mismatch
  | _ => mismatch

def digitsInParentheses : Take Unit := do
  if ← sign "(" then
    natural
    expectSign ")"

/-- An interval behind its word: a count, and the unit that it is counted in. -/
def interval : Take Unit := do
  let needsUnit ← among [.mysql]
  if needsUnit then r.any else discard r.operand
  if ← peekOneOf intervalUnits then
    if ← timeField then
      if ← sign "(" then
        natural
        if ← sign "," then natural
        expectSign ")"
    else
      digitsInParentheses
      if ← keyword "TO" then
        if ← timeField then digitsInParentheses
  else if needsUnit then mismatch
  else
    digitsInParentheses
    if ← keyword "TO" then
      if ← timeField then digitsInParentheses

/-! ## windows -/

def frameBound : Take Unit := do
  if !(← keywords ["CURRENT", "ROW"]) then
    if !(← keyword "UNBOUNDED") then
      match ← peek with
      | some (.literal .single _) => interval r
      | _ => r.any
    discard (expectOneOf ["PRECEDING", "FOLLOWING"])

def frame : Take Unit := do
  discard (expectOneOf ["ROWS", "RANGE", "GROUPS"])
  if ← keyword "BETWEEN" then
    frameBound r
    expectKeyword "AND"
    frameBound r
  else frameBound r

/-- Words that a window begins with, and so cannot be the name of another one. -/
def windowWords : List String :=
  ["PARTITION", "ORDER", "ROWS", "RANGE", "GROUPS"]

/-- A window behind its opening parenthesis. -/
def windowBody : Take Unit := do
  match ← peek with
  | some (.word _ keyword) => if !windowWords.contains keyword then skip
  | some (.quotedName ..) => skip
  | _ => pure ()
  afterKeywords ["PARTITION", "BY"] (commaList r.any)
  afterKeywords ["ORDER", "BY"] (orderList r)
  if !(← sign ")") then
    frame r
    expectSign ")"

/-- Whether nulls count; says if anything was taken. -/
def nullTreatment : Take Bool := do
  if (← oneOf ["RESPECT", "IGNORE"]).isSome then
    expectKeyword "NULLS"
    return true
  else return false

/-! ## arguments -/

/-- An expression, or all columns, of a table or of all. -/
inductive Item where
  | all
  | allOf
  | expression (operand : Operand)
deriving DecidableEq, Repr, Inhabited

/-- Whether a token goes on a path behind a point. -/
def continuesPath : Token → Bool
  | .word .. | .quotedName .. | .literal .single _ | .placeholder _ => true
  | _ => false

/-- How a path goes on behind a name. -/
inductive PathEnd where
  /-- No further. -/
  | name
  | star (rest : List Lexeme)
  | broken
deriving Inhabited

/-- Goes along points and names. -/
def pathEnd : List Lexeme → PathEnd
  | point :: token :: rest =>
    if point.token != .sign "." then .name
    else if token.token == .sign "*" then .star rest
    else if continuesPath token.token then pathEnd rest
    else .broken
  | [point] => if point.token == .sign "." then .broken else .name
  | [] => .name

def item : Take Item := do
  match ← get with
  | ⟨.sign "*", _⟩ :: rest =>
    set rest
    return .all
  | ⟨token, _⟩ :: rest =>
    match if token.isName || token matches .literal .single _ then pathEnd rest else .name with
    | .star rest =>
      set rest
      return .allOf
    | .broken => mismatch
    | .name => return .expression (← r.expression 0)
  | [] => mismatch

/-- What stands between the name of an argument and the argument. -/
def argumentSign : Take Unit := do
  if !(← keyword "VALUE") then
    match ← next with
    | .sign "=>" => return
    | .sign ":=" => if !(← among [.generic]) then mismatch
    | .sign ":" => if !(← among [.postgresql]) then mismatch
    | _ => mismatch

def argument : Take Unit := do
  let isNamed ← attempt do
    if ← among [.postgresql] then r.any else name
    argumentSign
    discard (item r)
  if isNamed.isNone then discard (item r)

/-- What an aggregate into JSON does with nulls. -/
def jsonNulls : Take Unit := do
  if !(← keywords ["ABSENT", "ON", "NULL"]) then discard (keywords ["NULL", "ON", "NULL"])

def jsonReturning : Take Unit := afterKeyword "RETURNING" (discard r.soleType)

/-- What becomes of a text that grows too long. -/
def overflow : Take Unit := afterKeywords ["ON", "OVERFLOW"] do
  if !(← keyword "ERROR") then
    expectKeyword "TRUNCATE"
    if !(← peekOneOf ["WITH", "WITHOUT"]) then
      match ← peek with
      | some (.literal ..) => r.any
      | _ => mismatch
    discard (expectOneOf ["WITH", "WITHOUT"])
    expectKeyword "COUNT"

/-- The arguments behind the opening parenthesis, and whether they say how nulls count. -/
def arguments : Take Bool := do
  jsonNulls
  jsonReturning r
  if ← sign ")" then return false
  if ← keyword "ALL" then
    if ← keyword "DISTINCT" then mismatch
  else discard (keyword "DISTINCT")
  commaList (argument r)
  let treatsNulls ← if ← among [.generic] then nullTreatment else pure false
  afterKeywords ["ORDER", "BY"] (orderList r)
  afterKeyword "LIMIT" r.any
  if ← among [.generic] then afterKeyword "HAVING" do
    discard (expectOneOf ["MIN", "MAX"])
    r.any
  if ← among [.generic, .mysql] then afterKeyword "SEPARATOR" value
  overflow r
  jsonNulls
  jsonReturning r
  expectSign ")"
  return treatsNulls

/-- A condition on the rows of an aggregate. -/
def filter : Take Unit := do
  if ← among [.postgresql, .generic] then
    if ← keyword "FILTER" then
      if ← sign "(" then
        if ← keyword "WHERE" then
          r.any
          expectSign ")"

/-- A call behind the name of its function. -/
def call : Take Unit := do
  expectSign "("
  let treatsNulls ← arguments r
  afterKeywords ["WITHIN", "GROUP"] <| parenthesized do
    expectKeywords ["ORDER", "BY"]
    orderList r
  filter r
  if !treatsNulls then discard nullTreatment
  if ← keyword "OVER" then
    if ← sign "(" then windowBody r else name

end AnalyticsGateway.Sql.Grammar
