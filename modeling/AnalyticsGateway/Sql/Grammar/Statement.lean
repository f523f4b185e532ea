import AnalyticsGateway.Sql.Grammar.Command
import AnalyticsGateway.Sql.Grammar.Expression

/-!
# Statements

Queries and commands, and the rules of the grammar tied together.
-/

namespace AnalyticsGateway.Sql.Grammar

open Take

/-- Words that a query begins with. -/
def queryWords : List String := ["SELECT", "WITH", "VALUES", "FROM"]

def statement (r : Rules) : Take StatementForm := do
  if (← peekOneOf queryWords) || (← peekSign "(") then return .query (← r.query)
  else match ← next with
    | .word _ "EXPLAIN" =>
      explanation r true
      return .explanation
    | .word _ "DESC" | .word _ "DESCRIBE" =>
      explanation r false
      return .explanation
    | .word _ keyword =>
      command r keyword
      return .command
    | _ => mismatch

/-! ## the rules -/

/-- The rules of the grammar, as far as they contain one another no deeper than a number says.
Expressions, queries and statements within one another are counted. -/
def rules : Nat → Rules
  | 0 =>
    { expression := fun _ => tooDeep
      operand := tooDeep
      type := tooDeep
      query := tooDeep
      selects := fun _ => tooDeep
      joinedTable := tooDeep
      statement := tooDeep }
  | bound + 1 =>
    { expression := fun least => deeper fun context => expression (rules bound) least context
      operand := fun context => operand (rules bound) context
      type := fun context => dataType (rules bound) context
      query := deeper fun context => query (rules bound) context
      selects := fun least context => selects (rules bound) least context
      joinedTable := fun context => joinedTable (rules bound) context
      statement := deeper fun context => statement (rules bound) context }

/-- The rules for some tokens: each rule takes a token before the next one but for a few. -/
def rulesFor (tokens : List Lexeme) : Rules := rules (8 * tokens.length + 16)

/-- What a rule takes from the front of some tokens, and what it leaves. -/
def run {α : Type} (family : Family) (rule : Rules → Take α) (tokens : List Lexeme) :
    Except Failure (α × List Lexeme) :=
  rule (rulesFor tokens) { family } tokens

/-! ## lists of statements -/

/-- The statements up to a word that ends a block, at most so many. -/
def statementsWithin (r : Rules) : Nat → Bool → Take (List StatementForm)
  | 0, _ => tooDeep
  | bound + 1, needsEnd => do
    if ← sign ";" then statementsWithin r bound false
    else if (← peek).isNone then return []
    else if needsEnd then
      if ← peekKeyword "END" then return [] else mismatch
    else
      let first ← r.statement
      return first :: (← statementsWithin r bound true)

/-- The statements between semicolons. -/
def statements (r : Rules) : Take (List StatementForm) := do
  statementsWithin r (2 * (← get).length + 2) false

end AnalyticsGateway.Sql.Grammar
