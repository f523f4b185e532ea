import AnalyticsGateway.Sql.Grammar.Change

/-!
# Definitions

Statements that define tables, views, indexes and other things. What only a kind of database can
make sense of is not looked at.
-/

namespace AnalyticsGateway.Sql.Grammar

open Take

variable (r : Rules)

/-! ## what is not looked at -/

/-- Takes all up to the end of the statement. -/
def restOfStatement : Take Unit :=
  modify fun tokens => tokens.dropWhile fun lexeme => lexeme.token != .sign ";"

/-- Takes all up to a comma or the parenthesis that closes the list. -/
def restOfItem : Take Unit := do
  let rec go : Nat → List Lexeme → List Lexeme
    | _, [] => []
    | depth, lexeme :: rest =>
      if lexeme.token == .sign "(" then go (depth + 1) rest
      else if lexeme.token == .sign ")" then
        match depth with
        | 0 => lexeme :: rest
        | depth + 1 => go depth rest
      else if depth = 0 && lexeme.token == .sign "," then lexeme :: rest
      else go depth rest
  modify (go 0)

def ifExists : Take Unit := discard (keywords ["IF", "EXISTS"])

def ifNotExists : Take Unit := discard (keywords ["IF", "NOT", "EXISTS"])

/-! ## columns -/

/-- What happens to rows that refer to a row. -/
def referentialAction : Take Unit := do
  if !(← keyword "CASCADE") then
    if !(← keyword "RESTRICT") then
      if !(← keywords ["NO", "ACTION"]) then
        expectKeyword "SET"
        discard (expectOneOf ["NULL", "DEFAULT"])

/-- What a column refers to. -/
def reference : Take Unit := do
  objectName
  optionalNames false name
  repeatWhile do
    if ← keyword "MATCH" then
      discard (expectOneOf ["FULL", "PARTIAL", "SIMPLE"])
      return true
    else if (← keywords ["ON", "DELETE"]) || (← keywords ["ON", "UPDATE"]) then
      referentialAction
      return true
    else return false

/-- What is said of a column; whether something is. -/
def columnOption : Take Bool := do
  match (← peek).bind Token.keyword? with
  | some "NOT" =>
    expectKeywords ["NOT", "NULL"]
    return true
  | some "NULL" | some "AUTO_INCREMENT" | some "AUTOINCREMENT" | some "INVISIBLE" =>
    skip
    return true
  | some "UNIQUE" =>
    skip
    discard (keyword "KEY")
    return true
  | some "PRIMARY" =>
    expectKeywords ["PRIMARY", "KEY"]
    return true
  | some "DEFAULT" =>
    skip
    r.any
    return true
  | some "CHECK" =>
    skip
    parenthesized r.any
    return true
  | some "REFERENCES" =>
    skip
    reference
    return true
  | some "COLLATE" =>
    skip
    objectName
    return true
  | some "CHARACTER" =>
    expectKeywords ["CHARACTER", "SET"]
    objectName
    return true
  | some "COMMENT" =>
    skip
    text
    return true
  | some "ON" =>
    expectKeywords ["ON", "UPDATE"]
    r.any
    return true
  | some "GENERATED" | some "AS" | some "IDENTITY" =>
    restOfItem
    return true
  | _ => return false

/-- A constraint of a column, with a name or without; says whether there is one. -/
def columnConstraint : Take Bool := do
  if ← keyword "CONSTRAINT" then
    name
    if !(← columnOption r) then mismatch
    return true
  else columnOption r

def column : Take Unit := do
  name
  discard r.soleType
  within .column (repeatWhile (columnConstraint r))

/-- Words that a constraint of a table begins with. -/
def constraintWords : List String :=
  ["CONSTRAINT", "PRIMARY", "UNIQUE", "FOREIGN", "CHECK", "INDEX", "KEY", "FULLTEXT", "SPATIAL",
   "EXCLUDE"]

def tableElement : Take Unit := do
  if ← peekOneOf constraintWords then restOfItem else column r

/-! ## tables -/

/-- Words that an option of a table begins with. -/
def tableOptionWords : List String :=
  ["ENGINE", "CHARSET", "CHARACTER", "DEFAULT", "COLLATE", "COMMENT", "AUTO_INCREMENT", "WITH",
   "WITHOUT", "ON", "PARTITION", "PARTITIONED", "CLUSTER", "CLUSTERED", "STORED", "LOCATION",
   "TBLPROPERTIES", "ROW", "ORDER", "PRIMARY", "INHERITS", "TABLESPACE", "STRICT", "OPTIONS",
   "CONNECTION", "DATA", "INSERT_METHOD", "KEY_BLOCK_SIZE", "MAX_ROWS", "MIN_ROWS", "PACK_KEYS",
   "ROW_FORMAT", "STATS_PERSISTENT", "UNION"]

/-- The options of a table, up to a query. -/
def tableOptions : Take Unit := do
  if ← peekOneOf tableOptionWords then
    modify fun tokens => tokens.dropWhile fun lexeme =>
      lexeme.token != .sign ";" && lexeme.token.keyword? != some "AS"

/-- A table with its columns, as another one, or with the rows of a query. -/
def tableDefinition : Take Unit := do
  ifNotExists
  objectName
  if (← oneOf ["LIKE", "ILIKE", "CLONE"]).isSome then objectName
  if ← sign "(" then commaListUntil ")" (tableElement r)
  tableOptions
  if ← keyword "AS" then r.subquery
  else if ← among [.mysql] then
    if ← peekKeyword "SELECT" then r.subquery

/-! ## views -/

def viewColumn : Take Unit := do
  name
  restOfItem

def viewDefinition : Take Unit := do
  ifNotExists
  objectName
  ifNotExists
  if ← sign "(" then commaListUntil ")" viewColumn
  if ← keyword "WITH" then parenthesized (commaList restOfItem)
  if ← among [.generic] then
    if ← keyword "COMMENT" then
      expectSign "="
      text
  expectKeyword "AS"
  r.subquery
  if ← among [.generic] then discard (keywords ["WITH", "NO", "SCHEMA", "BINDING"])

/-! ## indexes -/

def indexColumn : Take Unit := do
  r.any
  if !(← peekOneOf ["ASC", "DESC", "NULLS", "WITH"]) then discard (attempt objectName)
  direction

def indexDefinition : Take Unit := do
  let kind : Take Unit := afterKeyword "USING" name
  discard (keyword "CONCURRENTLY")
  let isSureToBeNamed ← keywords ["IF", "NOT", "EXISTS"]
  let isUnnamed ← if isSureToBeNamed then pure false else keyword "ON"
  if !isUnnamed then
    objectName
    kind
    expectKeyword "ON"
  objectName
  kind
  parenthesized (commaList (indexColumn r))
  afterKeyword "INCLUDE" nameList
  if ← keyword "NULLS" then
    discard (keyword "NOT")
    expectKeyword "DISTINCT"
  if ← among [.postgresql, .generic] then
    afterKeyword "WITH" (parenthesized (commaList r.any))
  afterKeyword "WHERE" r.any
  kind
  afterKeyword "COMMENT" text

/-! ## all kinds of things -/

/-- Things that a definition can put in the place of others. -/
def replaceableThings : List String := ["POLICY", "FUNCTION", "DOMAIN", "TRIGGER", "SECRET", "USER"]

/-- Things that are defined only once. -/
def otherThings : List String :=
  ["EXTENSION", "SCHEMA", "DATABASE", "ROLE", "SEQUENCE", "TYPE", "PROCEDURE", "CONNECTOR",
   "OPERATOR", "SERVER"]

/-- A definition behind `CREATE`. -/
def create : Take Unit := do
  let replaces ← keywords ["OR", "REPLACE"]
  discard (keywords ["OR", "ALTER"])
  discard (keyword "LOCAL")
  discard (keyword "GLOBAL")
  discard (keyword "TRANSIENT")
  discard (oneOf ["TEMP", "TEMPORARY"])
  match ← next with
  | .word _ "TABLE" => tableDefinition r
  | .word _ "EXTERNAL" =>
    expectKeyword "TABLE"
    tableDefinition r
  | .word _ "VIEW" => viewDefinition r
  | .word _ "MATERIALIZED" =>
    expectKeyword "VIEW"
    viewDefinition r
  | .word _ "SECURE" =>
    discard (keyword "MATERIALIZED")
    expectKeyword "VIEW"
    viewDefinition r
  | .word _ "INDEX" =>
    if replaces then mismatch
    indexDefinition r
  | .word _ "UNIQUE" =>
    if replaces then mismatch
    expectKeyword "INDEX"
    indexDefinition r
  | .word _ keyword =>
    if !replaceableThings.contains keyword && (replaces || !otherThings.contains keyword) then
      mismatch
    ifNotExists
    name
    restOfStatement
  | _ => mismatch

end AnalyticsGateway.Sql.Grammar
