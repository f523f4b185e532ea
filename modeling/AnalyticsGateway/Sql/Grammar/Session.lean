import AnalyticsGateway.Sql.Grammar.Name
import AnalyticsGateway.Sql.Grammar.Rules

/-!
# Sessions

Statements about transactions, settings and cursors, and those that show what there is.
-/

namespace AnalyticsGateway.Sql.Grammar

open Take

variable (r : Rules)

/-! ## transactions -/

def isolation : Take Unit := do
  if ← keyword "READ" then discard (expectOneOf ["UNCOMMITTED", "COMMITTED"])
  else if ← keyword "REPEATABLE" then expectKeyword "READ"
  else discard (expectOneOf ["SERIALIZABLE", "SNAPSHOT"])

/-- A mode of a transaction; says whether there is one. -/
def transactionMode : Take Bool := do
  if ← keywords ["ISOLATION", "LEVEL"] then
    isolation
    return true
  else return (← keywords ["READ", "ONLY"]) || (← keywords ["READ", "WRITE"])

/-- What a transaction may do and see, with commas between or without. -/
def transactionModes : Take Unit := do
  if ← transactionMode then
    repeatWhile do
      if ← sign "," then
        if !(← transactionMode) then mismatch
        return true
      else transactionMode

def transactionWord : Take Unit := discard (oneOf ["TRANSACTION", "WORK", "TRAN"])

def start : Take Unit := do
  expectKeyword "TRANSACTION"
  transactionModes

def beginning : Take Unit := do
  if ← among [.generic] then
    discard (oneOf ["DEFERRED", "IMMEDIATE", "EXCLUSIVE", "TRY", "CATCH"])
  transactionWord
  transactionModes

/-- Whether another transaction follows at once. -/
def chain : Take Unit := do
  transactionWord
  afterKeyword "AND" do
    discard (keyword "NO")
    expectKeyword "CHAIN"

def rollback : Take Unit := do
  chain
  afterKeyword "TO" do
    discard (keyword "SAVEPOINT")
    name

/-! ## settings -/

def isAssigned : Take Bool := do
  if ← sign "=" then return true else keyword "TO"

/-- The values of a variable, where a variable has several. -/
def settingValues : Take Unit := commaList do
  if (← attempt (parenthesized r.subquery)).isNone then r.any

def scope : Take Bool := return (← oneOf ["SESSION", "LOCAL", "GLOBAL"]).isSome

/-- A variable with one value, which may be one of several. -/
def assignedVariable : Take Unit := do
  discard scope
  objectName
  if !(← isAssigned) then mismatch
  r.any

/-- A variable with all its values, or in some dialects several variables at once. -/
def assignedVariables : Take Unit := do
  let areSeveral ← if ← among [.generic] then sign "(" else pure false
  if areSeveral then
    commaList name
    expectSign ")"
    if !(← isAssigned) then mismatch
    parenthesized (settingValues r)
  else
    objectName
    if !(← isAssigned) then mismatch
    settingValues r

def timeZoneSetting : Take Unit := do
  if ← isAssigned then settingValues r else r.any

/-- How texts are encoded. -/
def encodingSetting : Take Unit := do
  if !(← keyword "DEFAULT") then
    name
    afterKeyword "COLLATE" text

def transactionSetting : Take Unit := do
  if ← keyword "SNAPSHOT" then value else transactionModes

def setting : Take Unit := do
  let before ← get
  let isScoped ← scope
  let role ← attempt do
    expectKeyword "ROLE"
    name
  if role.isSome then return
  if (← keywords ["TIME", "ZONE"]) || (← keyword "TIMEZONE") then timeZoneSetting r
  else if ← keyword "NAMES" then encodingSetting
  else if ← keyword "CHARACTERISTICS" then
    expectKeywords ["AS", "TRANSACTION"]
    transactionModes
  else if ← keyword "TRANSACTION" then transactionSetting
  else if ← keyword "AUTHORIZATION" then
    if !isScoped then mismatch
    if !(← keyword "DEFAULT") then name
  else
    let mayBeSeveral ← among [.mysql, .generic]
    if mayBeSeveral then set before
    let assigned ← if mayBeSeveral then attempt (commaList (assignedVariable r)) else pure none
    if assigned.isNone then assignedVariables r

/-! ## what there is -/

/-- Which of the things are shown. -/
def shownChoice : Take Unit := do
  if (← oneOf ["LIKE", "ILIKE"]).isSome then text
  else if ← keyword "WHERE" then r.any
  else discard (attempt text)

/-- Where the things are that are shown. -/
def shownPlace : Take Unit := do
  if (← oneOf ["FROM", "IN"]).isSome then
    if (← oneOf ["ACCOUNT", "DATABASE", "SCHEMA", "TABLE", "VIEW"]).isSome then
      discard (attempt objectName)
    else
      objectName
      if (← oneOf ["FROM", "IN"]).isSome then name

def shownThings : Take Unit := do
  shownPlace
  shownChoice r
  afterKeywords ["STARTS", "WITH"] value
  afterKeyword "LIMIT" r.any
  afterKeyword "FROM" value

/-- A variable: all words up to the end of the statement, whatever stands between them. -/
def shownVariable : Take Unit :=
  modify fun tokens => tokens.dropWhile fun lexeme =>
    lexeme.token != .sign ";" && lexeme.token != .sign "="

def showing : Take Unit := do
  discard (keyword "TERSE")
  let isExtended ← keyword "EXTENDED"
  let isFull ← keyword "FULL"
  discard (keyword "SESSION")
  discard (keyword "GLOBAL")
  discard (keyword "EXTERNAL")
  if (← oneOf ["COLUMNS", "FIELDS", "TABLES", "VIEWS"]).isSome then shownThings r
  else if ← keywords ["MATERIALIZED", "VIEWS"] then shownThings r
  else if ← keyword "FUNCTIONS" then shownChoice r
  else if isExtended || isFull then mismatch
  else if ← keyword "CREATE" then
    discard (expectOneOf ["TABLE", "TRIGGER", "FUNCTION", "PROCEDURE", "EVENT", "VIEW"])
    objectName
  else if ← keyword "COLLATION" then shownChoice r
  else if ← keyword "VARIABLES" then
    if ← among [.mysql, .generic] then shownChoice r else shownVariable
  else if ← keyword "STATUS" then
    if ← among [.mysql, .generic] then shownChoice r else shownVariable
  else if (← oneOf ["CATALOGS", "DATABASES", "SCHEMAS"]).isSome then
    discard (keyword "HISTORY")
    shownThings r
  else shownVariable

/-! ## cursors -/

def declaration : Take Unit := do
  name
  discard (keyword "BINARY")
  if !(← keyword "INSENSITIVE") then discard (keyword "ASENSITIVE")
  if !(← keyword "SCROLL") then discard (keywords ["NO", "SCROLL"])
  expectKeyword "CURSOR"
  if (← oneOf ["WITH", "WITHOUT"]).isSome then expectKeyword "HOLD"
  expectKeyword "FOR"
  r.subquery

/-- How many rows of a cursor are fetched, and which way. -/
def fetchDirection : Take Unit := do
  match ← oneOf
      ["NEXT", "PRIOR", "FIRST", "LAST", "ALL", "ABSOLUTE", "RELATIVE", "FORWARD", "BACKWARD"] with
  | some "ABSOLUTE" | some "RELATIVE" | none => number
  | some "FORWARD" | some "BACKWARD" => if !(← keyword "ALL") then number
  | some _ => return

/-- Rows that are fetched from a cursor. -/
def cursorFetch : Take Unit := do
  fetchDirection
  discard (expectOneOf ["FROM", "IN"])
  name
  afterKeyword "INTO" objectName

end AnalyticsGateway.Sql.Grammar
