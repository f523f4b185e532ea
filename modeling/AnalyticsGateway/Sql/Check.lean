import AnalyticsGateway.Sql.Dialect
import AnalyticsGateway.Sql.Grammar.Statement
import AnalyticsGateway.Sql.Lexis

/-!
# Checks of SQL text

A rendered query has to be a single plain select with a row limit; the fragments of a catalog have
to be a single expression or a single query.
-/

namespace AnalyticsGateway.Sql

open Grammar (StatementForm)

/-- The statements of a text, if it is SQL. -/
def statements? (dialect : Dialect) (sql : String) : Option (List StatementForm) := do
  let family := familyOf dialect
  let result ← (Grammar.run family Grammar.statements (← lexemes? family sql)).toOption
  return result.1

def parsingError : String := "SQL parsing error"

/-- Whether a rendered query is one plain select that limits its rows. -/
def checkRendered (dialect : Dialect) (sql : String) : Except RenderError Unit :=
  match statements? dialect sql with
  | none => .error (.invalidSql parsingError)
  | some [.query form] =>
    if !form.isPlain then .error (.invalidSql "expected a plain SELECT")
    else if !form.isLimited then .error (.invalidSql "row limit missing")
    else .ok ()
  | some others =>
    .error (.invalidSql
      s!"expected exactly one SELECT statement, found {others.length} statement(s)")

/-- What follows the expression that a text begins with, if it begins with one. -/
def afterExpression? (dialect : Dialect) (sql : String) : Option (List Lexeme) := do
  let family := familyOf dialect
  let result ← (Grammar.run family (·.any) (← lexemes? family sql)).toOption
  return result.2

/-- Whether a text is a single expression. -/
def checkExpression (dialect : Dialect) (sql : String) : Except String Unit :=
  match afterExpression? dialect sql with
  | none => .error parsingError
  | some [] => .ok ()
  | some (lexeme :: _) => .error s!"unexpected trailing input near '{lexeme.token.shown}'"

/-- Whether a text is a single query. -/
def checkSubquery (dialect : Dialect) (sql : String) : Except String Unit :=
  match statements? dialect sql with
  | none => .error parsingError
  | some [] => .error "Empty SQL query"
  | some [.query _] => .ok ()
  | some [_] => .error "Only SELECT queries are permitted"
  | some many => .error s!"expected a single SELECT query, found {many.length} statements"

end AnalyticsGateway.Sql
