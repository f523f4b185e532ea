import AnalyticsGateway.Sql.Grammar.Table

/-!
# Selects

One select without set operators: what is selected, where from, and how the rows are grouped.
-/

namespace AnalyticsGateway.Sql.Grammar

open Take

variable (r : Rules)

/-! ## what is selected -/

/-- Columns that are left out, in parentheses or one alone. -/
def columnChoice : Take Unit := do
  if ← peekSign "(" then nameList else name

def newColumnName : Take Unit := do
  name
  expectKeyword "AS"
  name

/-- What is left out of all columns, or put in the place of some. -/
def starOptions : Take Unit := do
  if ← among [.generic] then
    if ← keyword "ILIKE" then text
    else afterKeyword "EXCLUDE" columnChoice
    afterKeyword "EXCEPT" columnChoice
    afterKeyword "REPLACE" do
      let replacement : Take Unit := do
        r.any
        discard (keyword "AS")
        name
      if ← sign "(" then
        commaList replacement
        expectSign ")"
      else replacement
    afterKeyword "RENAME" do
      if ← sign "(" then
        commaList newColumnName
        expectSign ")"
      else newColumnName

/-- An item of a projection. The word that ends a projection is no column. -/
def selectItem : Take Unit := do
  match ← item r with
  | .all | .allOf => starOptions r
  | .expression (.name (.word _ "FROM")) => mismatch
  | .expression _ => newItemName

/-- How many rows are selected. -/
def top : Take Unit := do
  if ← sign "(" then
    r.any
    expectSign ")"
  else natural
  discard (keyword "PERCENT")
  discard (keywords ["WITH", "TIES"])

/-- Whether equal rows count once. -/
def distinctness : Take Unit := do
  let isAll ← keyword "ALL"
  if ← keyword "DISTINCT" then
    if isAll then mismatch
    afterKeyword "ON" do
      expectSign "("
      commaListUntil ")" r.any

def projection : Take Unit := do
  let mayBeEmpty ← among [.postgresql, .generic]
  if mayBeEmpty && (← peekKeyword "FROM") then return
  commaList (selectItem r)

/-- The table that the rows go into. -/
def target : Take Unit := do
  discard (oneOf ["TEMP", "TEMPORARY"])
  discard (keyword "UNLOGGED")
  discard (keyword "TABLE")
  objectName

/-! ## groups -/

/-- Expressions in parentheses, or one alone where that is allowed. -/
def tuple (mayBeAlone : Bool) : Take Unit := do
  if ← sign "(" then commaListUntil ")" r.any
  else if mayBeAlone then r.any
  else mismatch

def groupItem : Take Unit := do
  if ← among [.postgresql, .generic] then
    if ← keywords ["GROUPING", "SETS"] then parenthesized (commaList (tuple r false))
    else if (← oneOf ["CUBE", "ROLLUP"]).isSome then parenthesized (commaList (tuple r true))
    else if (← peekSign "(") && (← peekAt 1) == some (.sign ")") then
      skip
      skip
    else r.any
  else r.any

def grouping : Take Unit := afterKeywords ["GROUP", "BY"] do
  if !(← keyword "ALL") then commaList (groupItem r)
  if ← among [.generic] then repeatWhile do
    if ← keyword "WITH" then
      discard (expectOneOf ["ROLLUP", "CUBE", "TOTALS"])
      return true
    else return false
  afterKeywords ["GROUPING", "SETS"] (parenthesized (commaList (tuple r true)))

/-! ## other clauses -/

/-- Rows that are made of each row by a function. -/
def lateralViews : Take Unit := repeatWhile do
  if ← keywords ["LATERAL", "VIEW"] then
    discard (keyword "OUTER")
    r.any
    objectName
    commaList (discard (newName ["WHERE", "GROUP", "CLUSTER", "HAVING", "LATERAL"]))
    return true
  else return false

def windows : Take Unit := commaList do
  name
  expectKeyword "AS"
  if ← sign "(" then windowBody r
  else if ← among [.generic] then name
  else mismatch

/-- Named windows and a condition on them, in either order. -/
def windowClauses : Take Unit := do
  if ← keyword "WINDOW" then
    windows r
    afterKeyword "QUALIFY" r.any
  else if ← keyword "QUALIFY" then
    r.any
    afterKeyword "WINDOW" (windows r)

/-- How the rows of a hierarchy are connected. -/
def hierarchy : Take Unit := do
  let connections : Take Unit := within .hierarchy (commaList r.any)
  if ← among [.generic] then
    if ← keyword "START" then
      expectKeyword "WITH"
      r.any
      expectKeywords ["CONNECT", "BY"]
      connections
    else if ← keyword "CONNECT" then
      expectKeyword "BY"
      connections
      expectKeywords ["START", "WITH"]
      r.any

/-- The tables in front of a select, where the dialect has them there; says whether there are any,
and whether a select follows. -/
def leadingTables : Take (Bool × Bool) := do
  let isThere ← if ← among [.generic] then keyword "FROM" else pure false
  if isThere then
    tableList r
    return (true, ← peekKeyword "SELECT")
  else return (false, true)

def select : Take Unit := do
  let (hasTables, hasSelect) ← leadingTables r
  if !hasSelect then return
  expectKeyword "SELECT"
  distinctness r
  afterKeyword "TOP" (top r)
  projection r
  afterKeyword "INTO" target
  if !hasTables then afterKeyword "FROM" (tableList r)
  lateralViews r
  if ← among [.generic] then afterKeyword "PREWHERE" r.any
  afterKeyword "WHERE" r.any
  grouping r
  afterKeywords ["CLUSTER", "BY"] (commaList r.any)
  afterKeywords ["DISTRIBUTE", "BY"] (commaList r.any)
  afterKeywords ["SORT", "BY"] (orderList r)
  afterKeyword "HAVING" r.any
  windowClauses r
  hierarchy r

end AnalyticsGateway.Sql.Grammar
