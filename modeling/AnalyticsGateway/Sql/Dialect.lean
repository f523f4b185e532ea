import AnalyticsGateway.Text.Casing

/-!
# SQL dialects

The dialects that queries are written in, and how each writes names and texts. Main statement:
`Dialect.named?_name`.
-/

namespace AnalyticsGateway

inductive Dialect where
  | postgresql | mysql | doris | druid | generic
deriving DecidableEq, Repr, Inhabited

namespace Dialect

def all : List Dialect := [.postgresql, .mysql, .doris, .druid, .generic]

def name : Dialect → String
  | postgresql => "postgresql"
  | mysql => "mysql"
  | doris => "doris"
  | druid => "druid"
  | generic => "generic"

/-- The dialect of exactly this name. -/
def named? (text : String) : Option Dialect := all.find? fun d => d.name == text

theorem named?_name (d : Dialect) : named? d.name = some d := by cases d <;> rfl

/-- Also by a customary name, in any case. -/
def parse (text : String) : Except String Dialect :=
  match Text.lowercase text with
  | "postgresql" | "postgres" | "pg" => .ok postgresql
  | "mysql" | "mariadb" => .ok mysql
  | "doris" => .ok doris
  | "druid" => .ok druid
  | "generic" | "ansi" => .ok generic
  | other => .error s!"Unsupported dialect: {other}"

/-- The quote around names. -/
def nameQuote : Dialect → Char
  | mysql | doris => '`'
  | postgresql | druid | generic => '"'

/-- Whether a backslash in a text escapes the character after it. -/
def hasBackslashEscapes : Dialect → Bool
  | mysql | doris => true
  | postgresql | druid | generic => false

/-- Words that cannot stand for a name without quotes in some dialect. -/
def reservedWords : List String :=
  ["all", "and", "any", "as", "asc", "between", "by", "case", "cast", "check", "column",
   "constraint", "create", "cross", "current_date", "current_time", "current_timestamp",
   "default", "delete", "desc", "distinct", "drop", "else", "end", "except", "exists", "false",
   "fetch", "for", "foreign", "from", "full", "group", "having", "in", "index", "inner",
   "insert", "intersect", "interval", "into", "is", "join", "key", "left", "like", "limit",
   "not", "null", "offset", "on", "or", "order", "outer", "primary", "references", "right",
   "rows", "select", "table", "then", "time", "timestamp", "to", "true", "union", "unique",
   "update", "user", "using", "values", "when", "where", "window", "with"]

def isNameStart (c : Char) : Bool := c.isLower || c = '_'

def isNamePart (c : Char) : Bool := c.isLower || c.isDigit || c = '_'

/-- Whether a name is written without quotes: small letters, digits and underscores, no digit first,
and no reserved word. -/
def isPlainName (name : String) : Bool :=
  match name.toList with
  | [] => false
  | c :: rest => isNameStart c && rest.all isNamePart && !reservedWords.contains name

end Dialect

end AnalyticsGateway

/-! ## Why a query has no SQL text -/

namespace AnalyticsGateway.Sql

inductive RenderError where
  | unsupported (dialect : Dialect) (construct : String)
  | unknownDialect (dialect : Dialect)
  | invalidSql (reason : String)
  | undecidedScope
deriving DecidableEq, Repr

def RenderError.message : RenderError → String
  | unsupported dialect construct =>
    s!"{construct} is not supported by the {dialect.name} dialect"
  | unknownDialect dialect => s!"No renderer registered for dialect {dialect.name}"
  | invalidSql reason => s!"Rendered SQL failed validation: {reason}"
  | undecidedScope => "Query must pass row-level security enforcement before rendering"

end AnalyticsGateway.Sql
