import AnalyticsGateway.Sql.Grammar.Definition

/-!
# Alterations

Statements that change the definitions of things, give them other names, empty them and drop them.
-/

namespace AnalyticsGateway.Sql.Grammar

open Take

variable (r : Rules)

/-! ## changes -/

/-- Something up to the end of the statement, which only the database can make sense of. -/
def something : Take Unit := do
  match ← peek with
  | none | some (.sign ";") => mismatch
  | _ => restOfStatement

/-- Words that a change of a table begins with. -/
def tableChangeWords : List String :=
  ["ADD", "RENAME", "DISABLE", "ENABLE", "CLEAR", "DROP", "PARTITION", "CHANGE", "MODIFY", "ALTER",
   "SWAP", "OWNER", "ATTACH", "DETACH", "FREEZE", "UNFREEZE", "CLUSTER", "SUSPEND", "RESUME",
   "ALGORITHM", "LOCK", "AUTO_INCREMENT", "REPLICA", "VALIDATE", "SET", "REMOVE", "FORCE", "NO"]

/-- The new name of a table or of a part of it. -/
def newTableOrPartName : Take Unit := do
  if (← oneOf ["TO", "AS"]).isSome then objectName
  else
    if (← oneOf ["CONSTRAINT", "INDEX", "KEY"]).isNone then discard (keyword "COLUMN")
    name
    expectKeyword "TO"
    name

/-- A column that is added. -/
def addedColumn : Take Unit := do
  discard (keyword "COLUMN")
  ifNotExists
  column r
  if !(← keyword "FIRST") then afterKeyword "AFTER" name

/-- A part that is dropped. -/
def droppedPart : Take Unit := do
  if ← keywords ["PRIMARY", "KEY"] then return
  if ← keywords ["FOREIGN", "KEY"] then name
  else
    discard (oneOf ["CONSTRAINT", "INDEX", "COLUMN"])
    ifExists
    name
  discard (oneOf ["CASCADE", "RESTRICT"])

def tableChange : Take Unit := do
  match ← expectOneOf tableChangeWords with
  | "ADD" =>
    if ← peekOneOf constraintWords then restOfItem
    else if ← peekOneOf ["PARTITION", "PROJECTION", "IF", "COLUMN"] then restOfItem
    else addedColumn r
  | "RENAME" => newTableOrPartName
  | "DROP" =>
    if ← peekOneOf ["PARTITION", "PROJECTION", "IF"] then restOfItem else droppedPart
  | _ =>
    match ← peek with
    | none | some (.sign ";") | some (.sign ",") => mismatch
    | _ => restOfItem

/-- A change of a definition, behind `ALTER`. -/
def alter : Take Unit := do
  match ← expectOneOf
      ["VIEW", "TYPE", "TABLE", "INDEX", "ROLE", "POLICY", "CONNECTOR", "SCHEMA", "USER",
       "OPERATOR"] with
  | "TABLE" =>
    ifExists
    discard (keyword "ONLY")
    objectName
    commaList (tableChange r)
  | "INDEX" =>
    objectName
    expectKeywords ["RENAME", "TO"]
    objectName
  | "VIEW" =>
    objectName
    optionalNames false name
    afterKeyword "WITH" (parenthesized (commaList restOfItem))
    expectKeyword "AS"
    r.subquery
  | _ =>
    ifExists
    objectName
    something

/-- Tables that are given other names. -/
def renamedTables : Take Unit := do
  expectKeyword "TABLE"
  commaList do
    objectName
    expectKeyword "TO"
    objectName

/-! ## ends -/

/-- What happens to what depends on a thing that is dropped. -/
def dropBehaviour : Take Unit := discard (oneOf ["CASCADE", "RESTRICT"])

/-- Functions or procedures with the types of their arguments. -/
def droppedFunctions : Take Unit := do
  ifExists
  commaList do
    objectName
    if ← sign "(" then commaListUntil ")" restOfItem
  dropBehaviour

/-- A thing that belongs to a table. -/
def droppedPartOfTable (mustNameTable : Bool) : Take Unit := do
  ifExists
  objectName
  if ← keyword "ON" then objectName else if mustNameTable then mismatch
  dropBehaviour

/-- Things by their names, which a role cannot take others along with. -/
def droppedThings (isRole : Bool) : Take Unit := do
  ifExists
  commaList objectName
  let takesOthers := (← oneOf ["CASCADE", "RESTRICT"]).isSome
  let isPurged ← keyword "PURGE"
  if isRole && (takesOthers || isPurged) then mismatch
  afterKeyword "ON" objectName

/-- Things that are dropped by their names alone. -/
def droppableThings : List String :=
  ["TABLE", "VIEW", "INDEX", "SCHEMA", "DATABASE", "SEQUENCE", "STAGE", "TYPE", "USER", "STREAM"]

/-- The end of a definition, behind `DROP`. -/
def drop : Take Unit := do
  if ← among [.mysql, .generic] then discard (keyword "TEMPORARY")
  match ← next with
  | .word _ "MATERIALIZED" =>
    expectKeyword "VIEW"
    droppedThings false
  | .word _ "ROLE" => droppedThings true
  | .word _ "FUNCTION" | .word _ "PROCEDURE" => droppedFunctions
  | .word _ "POLICY" => droppedPartOfTable true
  | .word _ "TRIGGER" => droppedPartOfTable false
  | .word _ "CONNECTOR" =>
    ifExists
    name
  | .word _ "DOMAIN" =>
    ifExists
    objectName
    dropBehaviour
  | .word _ "EXTENSION" =>
    ifExists
    commaList name
    dropBehaviour
  | .word _ "OPERATOR" => something
  | .word _ keyword =>
    if !droppableThings.contains keyword then mismatch
    droppedThings false
  | _ => mismatch

/-- Tables that are emptied. -/
def truncation : Take Unit := do
  discard (keyword "TABLE")
  ifExists
  commaList do
    discard (keyword "ONLY")
    objectName
    discard (sign "*")
  afterKeyword "PARTITION" (parenthesized (commaList r.any))
  if ← among [.postgresql, .generic] then
    if !(← keywords ["RESTART", "IDENTITY"]) then discard (keywords ["CONTINUE", "IDENTITY"])
    dropBehaviour

end AnalyticsGateway.Sql.Grammar
