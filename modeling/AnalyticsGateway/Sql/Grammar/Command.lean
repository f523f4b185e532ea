import AnalyticsGateway.Sql.Grammar.Alteration
import AnalyticsGateway.Sql.Grammar.Privilege
import AnalyticsGateway.Sql.Grammar.Query
import AnalyticsGateway.Sql.Grammar.Rules
import AnalyticsGateway.Sql.Grammar.Session

/-!
# Commands

Statements that are not queries, each behind its first word.
-/

namespace AnalyticsGateway.Sql.Grammar

open Take

variable (r : Rules)

/-! ## statements about statements -/

/-- An option of an explanation, with a value or without. -/
def explanationOption : Take Unit := do
  name
  if !(← peekSign ",") && !(← peekSign ")") then r.any

/-- What kind of explanation is asked for. -/
def explanationForm (isExplain : Bool) : Take Unit := do
  let mayHaveOptions ← if isExplain then among [.postgresql, .generic] else pure false
  if mayHaveOptions && (← peekSign "(") then parenthesized (commaList (explanationOption r))
  else if ← keywords ["QUERY", "PLAN"] then return
  else if ← keyword "ESTIMATE" then return
  else
    discard (keyword "ANALYZE")
    discard (keyword "VERBOSE")
    afterKeyword "FORMAT" do
      discard (sign "=")
      discard (expectOneOf ["TEXT", "GRAPHVIZ", "JSON", "TREE", "TRADITIONAL"])

/-- An explanation of a statement, or of a table. An explanation is not explained. -/
def explanation (isExplain : Bool) : Take Unit := do
  explanationForm r isExplain
  match ← attempt r.statement with
  | some .explanation => mismatch
  | some _ => return
  | none =>
    discard (oneOf ["EXTENDED", "FORMATTED"])
    objectName

def preparation : Take Unit := do
  name
  if ← sign "(" then
    commaList (discard r.soleType)
    expectSign ")"
  expectKeyword "AS"
  discard r.statement

/-- A prepared statement or a procedure with the values it is run with. -/
def execution : Take Unit := do
  let isEnd : Take Bool := do
    return (← peek).all (isSign ";") || (← peekOneOf ["USING", "OUTPUT", "DEFAULT"])
  objectName
  if ← sign "(" then commaListUntil ")" r.any
  else if !(← isEnd) then commaList r.any
  afterKeyword "INTO" (commaList name)
  afterKeyword "USING" (commaList (namedExpression r))
  discard (keyword "OUTPUT")
  discard (keyword "DEFAULT")

/-! ## rows in and out -/

/-- Skips rows that are written behind a statement, up to a point behind a backslash. -/
def skipRows : List Lexeme → List Lexeme
  | [] => []
  | lexeme :: rest =>
    if lexeme.token == .sign "\\" && (rest.head?.any fun next => next.token == .sign ".") then
      rest.drop 1
    else skipRows rest

def copyOption : Take Unit := do
  name
  restOfItem

/-- Rows that are copied from a file or to one. -/
def copy : Take Unit := do
  let isQuery ← sign "("
  if isQuery then
    r.subquery
    expectSign ")"
  else
    objectName
    optionalNames false name
  if (← expectOneOf ["FROM", "TO"]) = "FROM" && isQuery then mismatch
  let isWrittenOut ← keyword "STDIN"
  if !isWrittenOut && !(← keyword "STDOUT") then
    discard (keyword "PROGRAM")
    text
  discard (keyword "WITH")
  if ← sign "(" then
    commaList copyOption
    expectSign ")"
  repeatWhile do
    if (← oneOf ["BINARY", "CSV", "HEADER"]).isSome then return true
    else if (← oneOf ["DELIMITER", "NULL", "QUOTE", "ESCAPE"]).isSome then
      discard (keyword "AS")
      text
      return true
    else return false
  if isWrittenOut then
    expectSign ";"
    modify skipRows

/-! ## care of tables -/

def analysis : Take Unit := do
  discard (keyword "TABLE")
  objectName
  repeatWhile do
    match ← oneOf ["PARTITION", "NOSCAN", "FOR", "CACHE", "COMPUTE"] with
    | some "PARTITION" => parenthesized (commaList r.any)
    | some "FOR" =>
      expectKeyword "COLUMNS"
      discard (attempt (commaList name))
    | some "CACHE" => expectKeyword "METADATA"
    | some "COMPUTE" => expectKeyword "STATISTICS"
    | some _ => pure ()
    | none => return false
    return true

def vacuum : Take Unit := do
  discard (keyword "FULL")
  discard (keywords ["SORT", "ONLY"])
  discard (keywords ["DELETE", "ONLY"])
  discard (keyword "REINDEX")
  discard (keyword "RECLUSTER")
  if (← attempt objectName).isSome then
    afterKeyword "TO" do
      value
      expectKeyword "PERCENT"
    discard (keyword "BOOST")

def repair : Take Unit := do
  discard (keyword "REPAIR")
  expectKeyword "TABLE"
  objectName
  discard <| attempt do
    discard (oneOf ["ADD", "DROP", "SYNC"])
    expectKeyword "PARTITIONS"

/-- The tables that are flushed, word by word up to the end; what ends them is taken as well. -/
def flushedTables : Take Unit := do
  repeatWhile do
    match ← peek with
    | some (.word _ "WITH") =>
      skip
      discard (keywords ["READ", "LOCK"])
      return true
    | some (.word _ "FOR") =>
      skip
      discard (keyword "EXPORT")
      return true
    | some token =>
      if token.isName then
        commaList objectName
        return true
      else return false
    | none => return false
  skip

def flush : Take Unit := do
  if (← oneOf ["NO_WRITE_TO_BINLOG", "LOCAL"]).isSome then pure ()
  match ← expectOneOf
      ["BINARY", "ENGINE", "ERROR", "GENERAL", "SLOW", "RELAY", "HOSTS", "PRIVILEGES",
       "OPTIMIZER_COSTS", "STATUS", "USER_RESOURCES", "LOGS", "TABLES"] with
  | "BINARY" | "ENGINE" | "ERROR" | "GENERAL" | "SLOW" => expectKeyword "LOGS"
  | "RELAY" =>
    expectKeyword "LOGS"
    afterKeywords ["FOR", "CHANNEL"] objectName
  | "TABLES" => flushedTables
  | _ => return

/-- A table with another name or without, and how it is locked. -/
def lockedTable : Take Unit := do
  name
  discard (newName ["READ", "WRITE", "LOW_PRIORITY"])
  if ← keyword "READ" then discard (keyword "LOCAL")
  else
    discard (keyword "LOW_PRIORITY")
    expectKeyword "WRITE"

def cache : Take Unit := do
  if !(← keyword "TABLE") then
    objectName
    expectKeyword "TABLE"
  objectName
  afterKeyword "OPTIONS" (parenthesized (commaList restOfItem))
  if (← peek).isSome then
    discard (keyword "AS")
    r.subquery

/-! ## other commands -/

def invocation : Take Unit := do
  objectName
  if ← peekSign "(" then call r

def comment : Take Unit := do
  expectKeyword "ON"
  discard (expectOneOf
    ["TABLE", "COLUMN", "VIEW", "MATERIALIZED", "INDEX", "SCHEMA", "DATABASE", "EXTENSION", "ROLE",
     "USER", "SEQUENCE", "TYPE", "FUNCTION", "PROCEDURE", "DOMAIN"])
  objectName
  expectKeyword "IS"
  if !(← keyword "NULL") then text

/-- A parameter of the database, with a value or without. -/
def parameter : Take Unit := do
  let given : Take Unit := do
    match ← peek with
    | some (.word ..) | some (.sign _) => mismatch
    | _ => value
  objectName
  if ← sign "(" then
    given
    expectSign ")"
  else if ← sign "=" then given

/-- A message, where it may be missing. -/
def message : Take Unit := do
  if ← keywords ["USING", "MESSAGE"] then
    expectSign "="
    r.any
  else discard (attempt r.any)

/-- A command in the families of dialects that have it. -/
def only (families : List Family) (part : Take Unit) : Take Unit := do
  if !(← among families) then mismatch
  part

/-- A command behind its first word. -/
def command (word : String) : Take Unit :=
  match word with
  | "INSERT" => insert r
  | "REPLACE" => only [.mysql, .generic] (insert r)
  | "UPDATE" => update r
  | "DELETE" => delete r
  | "MERGE" => merge r
  | "COPY" => copy r
  | "CREATE" => create r
  | "ALTER" => alter r
  | "DROP" => drop
  | "RENAME" => renamedTables
  | "TRUNCATE" => truncation r
  | "COMMENT" => only [.postgresql, .generic] comment
  | "GRANT" => grant
  | "REVOKE" => revoke
  | "DENY" => deny
  | "BEGIN" => beginning
  | "START" => start
  | "COMMIT" | "END" => chain
  | "ROLLBACK" => rollback
  | "SAVEPOINT" => name
  | "RELEASE" => do
    discard (keyword "SAVEPOINT")
    name
  | "SET" => setting r
  | "RESET" => objectName
  | "DISCARD" => discard (expectOneOf ["ALL", "PLANS", "SEQUENCES", "TEMP", "TEMPORARY"])
  | "SHOW" => showing r
  | "USE" => objectName
  | "DECLARE" => declaration r
  | "OPEN" | "CLOSE" => name
  | "FETCH" => cursorFetch
  | "CALL" => invocation r
  | "PREPARE" => preparation r
  | "EXECUTE" | "EXEC" => execution r
  | "DEALLOCATE" => do
    discard (keyword "PREPARE")
    name
  | "IF" => choice r
  | "CASE" => selection r
  | "WHILE" => loop r
  | "ASSERT" => do
    r.any
    afterKeyword "AS" r.any
  | "PRINT" => r.any
  | "RAISE" => message r
  | "RETURN" => discard (attempt r.any)
  | "ANALYZE" => analysis r
  | "VACUUM" => vacuum
  | "MSCK" => repair
  | "FLUSH" => only [.mysql, .generic] flush
  | "CACHE" => cache r
  | "UNCACHE" => do
    expectKeyword "TABLE"
    ifExists
    objectName
  | "KILL" => do
    let kinds := if ← among [.generic] then ["CONNECTION", "QUERY", "MUTATION"]
      else ["CONNECTION", "QUERY"]
    discard (oneOf kinds)
    natural
  | "LISTEN" => only [.postgresql] name
  | "UNLISTEN" => only [.postgresql] do if !(← sign "*") then name
  | "NOTIFY" => only [.postgresql] do
    name
    if ← sign "," then text
  | "LOCK" => only [.mysql] do
    expectKeyword "TABLES"
    commaList lockedTable
  | "UNLOCK" => only [.mysql] (expectKeyword "TABLES")
  | "LOAD" => only [.postgresql, .generic] name
  | "INSTALL" => only [.generic] name
  | "ATTACH" => do
    discard (keyword "DATABASE")
    r.any
    expectKeyword "AS"
    name
  | "DETACH" => only [.generic] do
    discard (keyword "DATABASE")
    ifExists
    name
  | "PRAGMA" => parameter
  | "UNLOAD" => something
  | _ => mismatch

end AnalyticsGateway.Sql.Grammar
