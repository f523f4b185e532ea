import AnalyticsGateway.Sql.Grammar.Change

/-!
# Queries

Selects between set operators, the queries that are given names before them, and the order and the
limit of their rows.
-/

namespace AnalyticsGateway.Sql.Grammar

open Take

variable (r : Rules)

/-! ## named queries -/

def namedQuery : Take Unit := do
  name
  if ← keyword "AS" then
    if ← among [.postgresql] then
      if !(← keyword "MATERIALIZED") then discard (keywords ["NOT", "MATERIALIZED"])
  else
    columnNames r
    expectKeyword "AS"
  parenthesized r.subquery
  afterKeyword "FROM" name

def namedQueries : Take Unit := afterKeyword "WITH" do
  discard (keyword "RECURSIVE")
  commaList (namedQuery r)

/-! ## set operators -/

/-- How tightly the set operator binds that comes next, if one does. -/
def nextSetStrength? : Take (Option Nat) := do
  match (← peek).bind Token.keyword? with
  | some "UNION" | some "EXCEPT" | some "MINUS" => return some 10
  | some "INTERSECT" => return some 20
  | _ => return none

/-- Whether equal rows count once, and whether columns are matched by their names. -/
def quantifier : Take Unit := do
  discard (oneOf ["ALL", "DISTINCT"])
  discard (keywords ["BY", "NAME"])

/-- The rows of a whole table, behind its word; two tokens behind the name are taken as well. -/
def wholeTable : Take Unit := do
  let first ← next
  let second ← peek
  let third ← peekAt 1
  skip
  skip
  let isQualified := second.any (isSign ".")
  if !first.isName || (isQualified && !third.any Token.isName) then mismatch

/-- A select, or what may stand in its place between set operators; whether it is a select. -/
def selectOrOther : Take Bool := do
  let leadsWithTables ← if ← among [.generic] then peekKeyword "FROM" else pure false
  if leadsWithTables || (← peekKeyword "SELECT") then
    select r
    return true
  else
    if ← sign "(" then
      r.subquery
      expectSign ")"
    else if (← oneOf ["VALUES", "VALUE"]).isSome then rowValues r ((← read).family = .mysql)
    else if ← keyword "TABLE" then wholeTable
    else mismatch
    return false

/-- Takes the next set operator with its right side, if it binds more tightly than a number says. -/
def nextSetOperator (least : Nat) : Take Bool := do
  match ← nextSetStrength? with
  | some strength =>
    if strength ≤ least then return false
    skip
    quantifier
    discard (r.selects strength)
    return true
  | none => return false

/-- Selects between set operators that bind more tightly than a number says, and whether it is just
one. -/
def selects (least : Nat) : Take Bool := do
  let isSelect ← selectOrOther r
  if ← nextSetOperator r least then
    repeatWhile (nextSetOperator r least)
    return false
  else return isSelect

/-! ## order and limit -/

def order : Take Unit := afterKeywords ["ORDER", "BY"] do
  orderList r
  if ← among [.generic] then afterKeyword "INTERPOLATE" do
    if ← sign "(" then
      commaListUntil ")" do
        name
        afterKeyword "AS" r.any

def offset : Take Unit := do
  r.any
  discard (oneOf ["ROW", "ROWS"])

/-- A limit or an offset, in either order; whether the rows are limited. All rows are no limit. -/
def limit : Take Bool := do
  let offsetFirst ← keyword "OFFSET"
  if offsetFirst then offset r
  if ← keyword "LIMIT" then
    let isAll ← keyword "ALL"
    if !isAll then
      r.any
      if !offsetFirst then
        if ← among [.mysql, .generic] then
          if ← sign "," then
            r.any
            return true
    let isBy ← if ← among [.generic] then keyword "BY" else pure false
    if isBy then commaList r.any
    let offsetLast ← if offsetFirst then pure false else keyword "OFFSET"
    if offsetLast then offset r
    return !isAll || offsetFirst || offsetLast || isBy
  else return offsetFirst

/-- How many of the first rows are fetched; whether the rows are limited. -/
def fetch : Take Bool := do
  if !(← keyword "FETCH") then return false
  discard (oneOf ["FIRST", "NEXT"])
  if (← oneOf ["ROW", "ROWS"]).isNone then
    value
    discard (keyword "PERCENT")
    discard (oneOf ["ROW", "ROWS"])
  if !(← keyword "ONLY") then discard (keywords ["WITH", "TIES"])
  return true

/-! ## locks and forms of the result -/

def elementName : Take Unit := do
  if ← sign "(" then
    text
    expectSign ")"

/-- The form in which the rows are given, behind the word that says so. -/
def resultForm (form : String) : Take Unit := do
  if form = "XML" then
    match ← expectOneOf ["RAW", "AUTO", "EXPLICIT", "PATH"] with
    | "RAW" | "PATH" => elementName
    | _ => pure ()
    repeatWhile do
      if !(← sign ",") then return false
      match ← expectOneOf ["ELEMENTS", "BINARY", "ROOT", "TYPE"] with
      | "BINARY" => expectKeyword "BASE64"
      | "ROOT" => parenthesized text
      | _ => pure ()
      return true
  else if form = "JSON" then
    discard (expectOneOf ["AUTO", "PATH"])
    repeatWhile do
      if !(← sign ",") then return false
      if (← expectOneOf ["ROOT", "INCLUDE_NULL_VALUES", "WITHOUT_ARRAY_WRAPPER"]) = "ROOT" then
        parenthesized text
      return true

def lock : Take Unit := do
  discard (expectOneOf ["UPDATE", "SHARE"])
  afterKeyword "OF" objectName
  if !(← keyword "NOWAIT") then discard (keywords ["SKIP", "LOCKED"])

/-- The locks on the rows, or the form in which they are given, which is the last. -/
def forClauses : Take Unit := repeatWhile do
  if !(← keyword "FOR") then return false
  match ← oneOf ["XML", "JSON", "BROWSE"] with
  | some form =>
    resultForm form
    return false
  | none =>
    lock
    return true

/-- A group or what is counted in it, with another name or without, and how it is ordered. -/
def aggregateItem : Take Unit := do
  r.any
  discard (newName ["ASC", "DESC", "GROUP"])
  discard (oneOf ["ASC", "DESC"])

/-- What is done with the rows step by step. -/
def pipes : Take Unit := do
  if ← among [.generic] then repeatWhile do
    if !(← sign "|>") then return false
    match ← next with
    | .word _ "SELECT" | .word _ "EXTEND" => commaList (selectItem r)
    | .word _ "SET" => assignments r
    | .word _ "DROP" => commaList name
    | .word _ "AS" => name
    | .word _ "WHERE" => r.any
    | .word _ "LIMIT" =>
      r.any
      afterKeyword "OFFSET" r.any
    | .word _ "ORDER" =>
      expectKeyword "BY"
      orderList r
    | .word _ "AGGREGATE" =>
      if !(← peekKeyword "GROUP") then commaList (aggregateItem r)
      afterKeywords ["GROUP", "BY"] (commaList (aggregateItem r))
    | _ => mismatch
    return true

/-! ## queries -/

/-- A change of rows may stand in the place of a query. -/
def change? : Take Bool := do
  match ← oneOf ["INSERT", "UPDATE", "DELETE", "MERGE"] with
  | some "INSERT" => insert r
  | some "UPDATE" => update r
  | some "DELETE" => delete r
  | some _ => merge r
  | none => return false
  return true

def query : Take QueryForm := do
  namedQueries r
  if ← change? r then return ⟨false, false⟩
  let isPlain ← r.selects 0
  order r
  let isLimited ← limit r
  discard (settings r)
  let isFetched ← fetch
  forClauses
  if ← among [.generic] then afterKeyword "FORMAT" name
  pipes r
  return ⟨isPlain, isLimited || isFetched⟩

end AnalyticsGateway.Sql.Grammar
