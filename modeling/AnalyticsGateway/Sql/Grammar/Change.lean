import AnalyticsGateway.Sql.Grammar.Select

/-!
# Changes of rows

Inserts, updates, deletions and merges, each behind its first word.
-/

namespace AnalyticsGateway.Sql.Grammar

open Take

variable (r : Rules)

/-! ## parts -/

def assignment : Take Unit := do
  if ← sign "(" then
    commaList objectName
    expectSign ")"
  else objectName
  expectSign "="
  r.any

def assignments : Take Unit := commaList (assignment r)

def condition : Take Unit := afterKeyword "WHERE" r.any

/-- What the changed rows give back. -/
def returning : Take Unit := afterKeyword "RETURNING" (commaList (selectItem r))

/-- What is done where a row is there already. -/
def conflictChoice : Take Unit := do
  if ← keyword "OR" then
    discard (expectOneOf ["REPLACE", "ROLLBACK", "ABORT", "FAIL", "IGNORE"])
  else discard (keyword "REPLACE")

/-! ## inserts -/

/-- Whether a query begins, in parentheses or not. -/
def startsQuery : Take Bool := do
  let isOpen ← peekSign "("
  let word := (← if isOpen then peekAt 1 else peek).bind Token.keyword?
  return isOpen && (word == some "SELECT" || word == some "WITH")

/-- What is done with a row that is in conflict with one that is there. -/
def conflict : Take Unit := afterKeyword "ON" do
  if ← keyword "CONFLICT" then
    if ← keywords ["ON", "CONSTRAINT"] then objectName
    else if ← peekSign "(" then nameList
    expectKeyword "DO"
    if !(← keyword "NOTHING") then
      expectKeywords ["UPDATE", "SET"]
      assignments r
      condition r
  else
    expectKeywords ["DUPLICATE", "KEY", "UPDATE"]
    assignments r

/-- Columns and rows of an insert. -/
def insertedRows : Take Unit := do
  if !(← keywords ["DEFAULT", "VALUES"]) then
    if !(← startsQuery) then
      optionalNames ((← read).family = .mysql) name
      afterKeyword "PARTITION" (parenthesized (commaList r.any))
    let isSet ← if ← among [.mysql, .generic] then keyword "SET" else pure false
    if isSet then assignments r
    else if !(← peekOneOf ["FORMAT", "SETTINGS"]) then r.subquery

def insert : Take Unit := do
  conflictChoice
  if ← among [.mysql, .generic] then
    discard (oneOf ["LOW_PRIORITY", "DELAYED", "HIGH_PRIORITY"])
    discard (keyword "IGNORE")
  discard (keyword "OVERWRITE")
  discard (keyword "INTO")
  discard (keyword "TABLE")
  objectName
  if ← among [.postgresql] then afterKeyword "AS" name
  insertedRows r
  if ← among [.mysql, .generic] then afterKeyword "AS" do
    objectName
    optionalNames false name
  conflict r
  returning r

/-! ## updates and deletions -/

def update : Take Unit := do
  conflictChoice
  discard r.joinedTable
  let isBefore ← keyword "FROM"
  if isBefore then tableList r
  expectKeyword "SET"
  assignments r
  if !isBefore then
    if ← keyword "FROM" then
      if ← among [.postgresql, .generic] then tableList r
  condition r
  returning r
  afterKeyword "LIMIT" r.any

def delete : Take Unit := do
  if !(← keyword "FROM") then
    if !(← among [.generic]) then
      commaList objectName
      expectKeyword "FROM"
  tableList r
  afterKeyword "USING" (tableList r)
  condition r
  returning r
  afterKeywords ["ORDER", "BY"] (orderList r)
  afterKeyword "LIMIT" do if !(← keyword "ALL") then r.any

/-! ## merges -/

/-- What is done with the rows of one kind, those that have a match or those that have none. -/
def mergeClause : Take Bool := do
  if !(← keyword "WHEN") then return false
  let isUnmatched ← keyword "NOT"
  expectKeyword "MATCHED"
  let isOfSource ← if isUnmatched then keywords ["BY", "SOURCE"] else pure false
  if isUnmatched && !isOfSource then discard (keywords ["BY", "TARGET"])
  afterKeyword "AND" r.any
  expectKeyword "THEN"
  let changes := !isUnmatched || isOfSource
  match ← expectOneOf ["UPDATE", "INSERT", "DELETE"] with
  | "UPDATE" =>
    if !changes then mismatch
    expectKeyword "SET"
    assignments r
  | "DELETE" => if !changes then mismatch
  | _ =>
    if changes then mismatch
    let mayBeEmpty ← among [.mysql]
    optionalNames mayBeEmpty name
    let isRow ← if ← among [.generic] then keyword "ROW" else pure false
    if !isRow then
      expectKeyword "VALUES"
      rowValues r mayBeEmpty
  return true

def merge : Take Unit := do
  discard (keyword "INTO")
  discard (table r)
  expectKeyword "USING"
  discard (table r)
  expectKeyword "ON"
  r.any
  repeatWhile (mergeClause r)

end AnalyticsGateway.Sql.Grammar
