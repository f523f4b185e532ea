import AnalyticsGateway.Sql.Grammar.Name

/-!
# Privileges

Statements that grant privileges on objects, revoke them and deny them.
-/

namespace AnalyticsGateway.Sql.Grammar

open Take

/-- Privileges that can be limited to some columns. -/
def columnPrivileges : List String := ["INSERT", "REFERENCES", "SELECT", "UPDATE"]

def plainPrivileges : List String :=
  ["APPLYBUDGET", "AUDIT", "CONNECT", "CREATE", "DELETE", "DROP", "EXEC", "EXECUTE", "FAILOVER",
   "MODIFY", "MONITOR", "OPERATE", "OWNERSHIP", "READ", "REPLICATE", "TEMPORARY", "TRIGGER",
   "TRUNCATE", "USAGE"]

def privilege : Take Unit := do
  match ← expectOneOf ("ROLE" :: columnPrivileges ++ plainPrivileges) with
  | "ROLE" => objectName
  | word => if columnPrivileges.contains word then optionalNames false name

/-- A name, parts of which may be stars. -/
def objectPattern : Take Unit := listBy "." do
  if !(← sign "*") then name

/-- What the privileges are on. -/
def privilegeTargets : Take Unit := do
  if ← keyword "ALL" then
    discard (expectOneOf ["TABLES", "VIEWS", "FUNCTIONS", "SEQUENCES"])
    expectKeywords ["IN", "SCHEMA"]
    commaList objectName
  else
    let kind? ← oneOf
      ["SEQUENCE", "DATABASE", "SCHEMA", "TABLE", "VIEW", "WAREHOUSE", "INTEGRATION", "USER",
       "CONNECTION", "PROCEDURE", "FUNCTION"]
    commaList objectPattern
    if kind? == some "PROCEDURE" || kind? == some "FUNCTION" then optionalNames true name

/-- Privileges, and what they are on; says whether the latter is said. -/
def privileges : Take Bool := do
  if ← keyword "ALL" then discard (keyword "PRIVILEGES") else commaList privilege
  if ← keyword "ON" then
    privilegeTargets
    return true
  else return false

/-- A user or a role, in some dialects with the host that a user comes from. -/
def grantee : Take Unit := do
  let isPublic ← keyword "PUBLIC"
  if !isPublic then
    discard (oneOf ["ROLE", "USER", "SHARE", "GROUP"])
    objectName
    if ← sign ":" then name
    if ← among [.mysql, .generic] then
      if ← sign "@" then name

def grant : Take Unit := do
  discard privileges
  expectKeyword "TO"
  commaList grantee
  discard (keywords ["WITH", "GRANT", "OPTION"])
  afterKeyword "AS" name
  afterKeywords ["GRANTED", "BY"] name

def revoke : Take Unit := do
  discard privileges
  expectKeyword "FROM"
  commaList grantee
  afterKeywords ["GRANTED", "BY"] name
  discard (oneOf ["CASCADE", "RESTRICT"])

def deny : Take Unit := do
  if !(← privileges) then mismatch
  expectKeyword "TO"
  commaList grantee
  discard (keyword "CASCADE")
  afterKeyword "AS" name

end AnalyticsGateway.Sql.Grammar
