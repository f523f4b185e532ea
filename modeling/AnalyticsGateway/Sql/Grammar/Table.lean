import AnalyticsGateway.Sql.Grammar.Special

/-!
# Tables

What rows are selected from: tables by name, queries in parentheses, functions that give rows, and
all these joined.
-/

namespace AnalyticsGateway.Sql.Grammar

open Take

variable (r : Rules)

/-! ## other names -/

/-- Columns in parentheses, with their types or without. -/
def columnNames : Take Unit := do
  if ← sign "(" then
    commaList do
      name
      discard (attempt r.type)
    expectSign ")"

/-- Another name of a table and of its columns; says whether there is one. -/
def newTableName : Take Bool := do
  let ends := if ← among [.mysql] then endsTable ++ endsHintedTable else endsTable
  if ← newName ends then
    columnNames r
    return true
  else return false

/-! ## rows without a table -/

/-- Rows that are written out. -/
def rowValues (mayBeEmpty : Bool) : Take Unit := commaList do
  discard (keyword "ROW")
  expectSign "("
  if mayBeEmpty && (← sign ")") then return
  commaList r.any
  expectSign ")"

/-! ## what follows a table -/

/-- What an index is used for, or not. -/
def indexHints : Take Unit := repeatWhile do
  if (← oneOf ["USE", "IGNORE", "FORCE"]).isNone then return false
  discard (expectOneOf ["INDEX", "KEY"])
  afterKeyword "FOR" do
    if !(← keyword "JOIN") then
      if !(← keywords ["ORDER", "BY"]) then expectKeywords ["GROUP", "BY"]
  expectSign "("
  commaListUntil ")" name
  return true

/-- A part of the rows that is drawn by chance. -/
def sample : Take Unit := do
  if (← oneOf ["TABLESAMPLE", "SAMPLE"]).isNone then return
  discard (oneOf ["BERNOULLI", "ROW", "SYSTEM", "BLOCK"])
  let isParenthesized ← sign "("
  let isBucket ← if isParenthesized then keyword "BUCKET" else pure false
  if isBucket then
    number
    expectKeywords ["OUT", "OF"]
    number
    afterKeyword "ON" r.any
  else
    if (← attempt r.any).isNone then expect Token.isName
    discard (oneOf ["ROWS", "PERCENT"])
  if isParenthesized then expectSign ")"
  if (← oneOf ["REPEATABLE", "SEED"]).isSome then parenthesized number
  afterKeyword "OFFSET" r.any

/-- Hints in parentheses; a word that begins something else stays. -/
def tableHints : Take Unit := do
  if ← peekKeyword "WITH" then
    if (← peekAt 1) == some (.sign "(") then
      skip
      parenthesized (commaList r.any)

/-- An expression, with another name behind `AS` or without. -/
def namedExpression : Take Unit := do
  r.any
  afterKeyword "AS" name

/-- A call with another name or without, before the word that ends the calls of a pivot. -/
def namedCall : Take Unit := do
  expect Token.isName
  call r
  discard (newName ("FOR" :: endsItem))

/-- Rows turned into columns. -/
def pivot : Take Unit := do
  let column : Take Unit := Special.within r .range
  parenthesized do
    commaList (namedCall r)
    expectKeyword "FOR"
    if ← sign "(" then
      commaList column
      expectSign ")"
    else column
    expectKeyword "IN"
    parenthesized do
      if ← keyword "ANY" then afterKeywords ["ORDER", "BY"] (orderList r)
      else if (← attempt r.query).isNone then commaList (namedExpression r)
    afterKeywords ["DEFAULT", "ON", "NULL"] (parenthesized r.any)
  discard (newTableName r)

/-- Columns turned into rows. -/
def unpivot : Take Unit := do
  if (← oneOf ["INCLUDE", "EXCLUDE"]).isSome then expectKeyword "NULLS"
  parenthesized do
    r.any
    expectKeyword "FOR"
    name
    expectKeyword "IN"
    parenthesized (commaList (namedExpression r))
  discard (newTableName r)

def pivots : Take Unit := repeatWhile do
  match ← oneOf ["PIVOT", "UNPIVOT"] with
  | some "PIVOT" =>
    pivot r
    return true
  | some _ =>
    unpivot r
    return true
  | none => return false

/-! ## tables -/

/-- Settings of a query. -/
def settings : Take Bool := do
  let isThere ← if ← among [.generic] then keyword "SETTINGS" else pure false
  if isThere then commaList do
    name
    expectSign "="
    r.any
  return isThere

/-- The arguments of a function that gives rows, behind the opening parenthesis. -/
def tableArguments : Take Unit := do
  if ← sign ")" then return
  repeatWhile do
    if ← settings r then return false
    argument r
    sign ","
  expectSign ")"

/-- A query in parentheses, the first of which has been taken. -/
def derivedTable : Take TableForm := do
  r.subquery
  expectSign ")"
  return { isRenamed := ← newTableName r }

/-- What stands in parentheses, the first of which has been taken: a query, or joined tables. A
table alone is in parentheses in some dialects only, and has one other name at most. -/
def parenthesizedTable : Take TableForm := do
  match ← attempt (derivedTable r) with
  | some form =>
    pivots r
    return form
  | none =>
    let (form, isJoined) ← r.joinedTable
    if isJoined || form.isNested then
      expectSign ")"
      return { isNested := true, isRenamed := ← newTableName r }
    else if ← among [.generic] then
      expectSign ")"
      let isRenamed ← newTableName r
      if isRenamed && form.isRenamed then mismatch
      return { isRenamed := isRenamed || form.isRenamed }
    else mismatch

/-- A column that is read from data. -/
def dataColumn : Take Unit := do
  name
  if ← keywords ["FOR", "ORDINALITY"] then return
  discard r.soleType
  discard (keyword "EXISTS")
  expectKeyword "PATH"
  value
  repeatWhile do
    match ← oneOf ["NULL", "ERROR", "DEFAULT"] with
    | some word =>
      if word = "DEFAULT" then value
      expectKeyword "ON"
      discard (expectOneOf ["EMPTY", "ERROR"])
      return true
    | none => return false

/-- A table that is read from data. -/
def dataTable : Take TableForm := do
  r.any
  expectSign ","
  value
  expectKeyword "COLUMNS"
  parenthesized (commaList (dataColumn r))
  expectSign ")"
  return { isRenamed := ← newTableName r }

/-- Arrays whose elements are rows. -/
def unnestedTable : Take TableForm := do
  parenthesized (commaList r.any)
  discard (keywords ["WITH", "ORDINALITY"])
  let isRenamed ← newTableName r
  if ← keywords ["WITH", "OFFSET"] then newItemName
  return { isRenamed }

/-- A table by its name, or a function that gives rows. -/
def namedTable : Take TableForm := do
  objectName
  if ← among [.mysql, .generic] then afterKeyword "PARTITION" nameList
  if ← sign "(" then tableArguments r
  discard (keywords ["WITH", "ORDINALITY"])
  let isRenamed ← newTableName r
  if ← among [.mysql] then discard (attempt indexHints)
  tableHints r
  sample r
  pivots r
  return { isRenamed }

def lateralTable : Take TableForm := do
  if ← sign "(" then derivedTable r
  else
    objectName
    expectSign "("
    commaListUntil ")" (argument r)
    return { isRenamed := ← newTableName r }

/-- Whether rows that are written out begin here. -/
def startsRows : Take Bool := do
  if ← among [.generic] then
    return (← peekKeyword "VALUES") && (← peekAt 1) == some (.sign "(")
  else return false

/-- Takes a word and the parenthesis behind it. -/
def opened (word : String) : Take Bool := do
  if (← peekKeyword word) && (← peekAt 1) == some (.sign "(") then
    skip
    skip
    return true
  else return false

/-- A table, or what stands for one. -/
def table : Take TableForm := do
  if ← keyword "LATERAL" then lateralTable r
  else if ← keyword "TABLE" then
    parenthesized r.any
    return { isRenamed := ← newTableName r }
  else if ← sign "(" then parenthesizedTable r
  else if ← startsRows then
    skip
    rowValues r false
    return { isRenamed := ← newTableName r }
  else
    let isUnnested ← if ← among [.postgresql, .generic] then keyword "UNNEST" else pure false
    if isUnnested then unnestedTable r
    else if ← opened "JSON_TABLE" then dataTable r
    else namedTable r

/-! ## joins -/

/-- What joined rows have in common. -/
def joinCondition (isNatural : Bool) : Take Unit := do
  if !isNatural then
    if ← keyword "ON" then r.any
    else if ← keyword "USING" then parenthesized (commaList objectName)

/-- The words of a join, and whether they begin one. -/
def joinWords : Take Bool := do
  match ← oneOf ["INNER", "JOIN", "LEFT", "RIGHT", "ANTI", "SEMI", "FULL", "STRAIGHT_JOIN"] with
  | some "INNER" | some "ANTI" | some "SEMI" =>
    expectKeyword "JOIN"
    return true
  | some "LEFT" | some "RIGHT" =>
    if (← expectOneOf ["OUTER", "SEMI", "ANTI", "JOIN"]) ≠ "JOIN" then expectKeyword "JOIN"
    return true
  | some "FULL" =>
    discard (keyword "OUTER")
    expectKeyword "JOIN"
    return true
  | some _ => return true
  | none => return false

/-- One more table that is joined, if there is one. -/
def join : Take Bool := do
  discard (keyword "GLOBAL")
  if ← keyword "CROSS" then
    let isApplied := (← expectOneOf ["JOIN", "APPLY"]) = "APPLY"
    discard (table r)
    if !isApplied then
      if ← among [.mysql] then joinCondition r false
    return true
  else if ← keyword "OUTER" then
    expectKeyword "APPLY"
    discard (table r)
    return true
  else if ← keyword "ASOF" then
    expectKeyword "JOIN"
    discard (table r)
    expectKeyword "MATCH_CONDITION"
    parenthesized r.any
    joinCondition r false
    return true
  else
    let isNatural ← keyword "NATURAL"
    if ← joinWords then
      discard (table r)
      joinCondition r isNatural
      return true
    else if isNatural then mismatch
    else return false

/-- A table and what it is joined with, and whether it is joined at all. -/
def joinedTable : Take (TableForm × Bool) := do
  let form ← table r
  if ← join r then
    repeatWhile (join r)
    return (form, true)
  else return (form, false)

def tableList : Take Unit := commaList (discard r.joinedTable)

end AnalyticsGateway.Sql.Grammar
