import AnalyticsGateway.Sql.Check
import AnalyticsGateway.Sql.Writer

/-!
# Rendered queries
-/

namespace AnalyticsGateway.Sql

/-- A query as text of its dialect, after all checks. -/
structure Rendered where
  text : String
  dialect : Dialect
deriving DecidableEq, Repr, Inhabited

/-- Renders a query whose scope is decided. -/
def Query.render (q : Query) : Except RenderError Rendered := do
  if q.scope = .undecided then throw .undecidedScope
  let text := writePieces q.dialect (← q.pieces)
  checkRendered q.dialect text
  return ⟨text, q.dialect⟩

end AnalyticsGateway.Sql
