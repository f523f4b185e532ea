import AnalyticsGateway.Compile.Ceilings
import AnalyticsGateway.Compile.Field
import AnalyticsGateway.Sql.Condition
import AnalyticsGateway.Sql.SortKey
import AnalyticsGateway.Text.Blank
import AnalyticsGateway.Text.Casing

/-!
# Filters to conditions

Every filter becomes a condition on rows or one on groups; a group of filters may not mix the two.
-/

namespace AnalyticsGateway

/-! ## operators -/

inductive Operator where
  | compare (comparison : Sql.Comparison)
  | among (negated : Bool)
  | like (negated : Bool)
  | between
  | isNull (negated : Bool)
deriving DecidableEq, Repr, Inhabited

namespace Operator

/-- An operator is written in any case and with any blanks between its words. -/
def parse? (text : String) : Option Operator :=
  match Text.lowercase (" ".intercalate (Text.words text)) with
  | "=" => some (compare .equal)
  | "!=" | "<>" => some (compare .notEqual)
  | ">" => some (compare .greater)
  | ">=" => some (compare .greaterEqual)
  | "<" => some (compare .less)
  | "<=" => some (compare .lessEqual)
  | "in" => some (among false)
  | "not in" => some (among true)
  | "like" => some (like false)
  | "not like" => some (like true)
  | "between" => some between
  | "is null" => some (isNull false)
  | "is not null" => some (isNull true)
  | _ => none

end Operator

/-! ## values -/

/-- A value as a constant of a field's type. A whole number beyond 63 bits is rounded. -/
def literalOf (field : String) (type : FieldType) : Json → Except CompileError Sql.Literal
  | .null => .error (.invalidValue field "null is only valid with 'is null' and 'is not null'")
  | .array _ | .object _ => .error (.invalidValue field "expected a single value")
  | .boolean b => if type = .boolean then .ok (.boolean b) else mismatch
  | .integer n =>
    if type.isNumeric then
      if -wordSize 63 ≤ n ∧ n < wordSize 63 then .ok (.integer n)
      else .ok (.float (Json.floatOfInteger n))
    else mismatch
  | .float x => if type.isNumeric then .ok (.float x) else mismatch
  | .text s => if !type.isNumeric && type != .boolean then .ok (.text s) else mismatch
where
  mismatch : Except CompileError Sql.Literal :=
    .error (.invalidValue field s!"value does not match field type {type.title}")

/-- The constants of a list, distinct and in order. -/
def Ceilings.listOf (c : Ceilings) (field : String) (type : FieldType) :
    Json → Except CompileError (List Sql.Literal)
  | .array (item :: rest) => do
    let items := item :: rest
    if c.listLength < items.length then
      throw (.tooComplex
        s!"'in' list for '{field}' has {items.length} values, maximum is {c.listLength}")
    return Sql.Literal.distinct (← items.mapM (literalOf field type))
  | _ => .error (.invalidValue field "'in' requires a non-empty array")

/-! ## predicates -/

/-- The test that an operator and a value ask for. -/
def Ceilings.test (c : Ceilings) (field : String) (type : FieldType) (operator : Operator)
    (value : Json) : Except CompileError Sql.Test :=
  match operator with
  | .compare comparison => return .compare comparison (← literalOf field type value)
  | .among negated => return .among (← c.listOf field type value) negated
  | .like negated =>
    match value with
    | .text pattern => .ok (.like pattern negated)
    | _ => .error (.invalidValue field "'like' requires a string pattern")
  | .between =>
    match value with
    | .array [low, high] =>
      return .between (← literalOf field type low) (← literalOf field type high)
    | _ => .error (.invalidValue field "'between' requires an array of exactly two values")
  | .isNull negated =>
    match value with
    | .null => .ok (.isNull negated)
    | _ => .error (.invalidValue field "null checks take no value")

def Dataset.condition (d : Dataset) (c : Ceilings) (p : Predicate) :
    Except CompileError (Sql.Condition × Level) := do
  let field ← d.resolve p.field
  match Operator.parse? p.operator with
  | some operator =>
    return (.test field.term (← c.test p.field field.type operator p.value), field.level)
  | none => throw (.unsupportedOperator p.operator)

/-! ## groups -/

def mixedLevels (connective : Sql.Connective) : CompileError :=
  .invalidFilter s!"'{connective.word}' group mixes dimension and metric filters"

def emptyGroup (connective : Sql.Connective) : CompileError :=
  .invalidFilter s!"'{connective.word}' requires at least one filter"

/-- The junction of compiled filters, at the level they share. -/
def groupOf (connective : Sql.Connective) (parts : List Sql.Condition × Option Level) :
    Except CompileError (Sql.Condition × Level) :=
  match Sql.Condition.junction connective parts.1, parts.2 with
  | some condition, some level => .ok (condition, level)
  | _, _ => .error (emptyGroup connective)

mutual

def Dataset.compileFilter (d : Dataset) (c : Ceilings) :
    Filter → Except CompileError (Sql.Condition × Level)
  | .predicate p => d.condition c p
  | .not filter => do
    let (condition, level) ← d.compileFilter c filter
    return (.not condition, level)
  | .and parts => do groupOf .and (← d.compileParts c .and none parts)
  | .or parts => do groupOf .or (← d.compileParts c .or none parts)

/-- Compiles the parts of a group in their order, as long as they share a level. -/
def Dataset.compileParts (d : Dataset) (c : Ceilings) (connective : Sql.Connective)
    (level : Option Level) : List Filter → Except CompileError (List Sql.Condition × Option Level)
  | [] => .ok ([], level)
  | filter :: rest => do
    let (condition, own) ← d.compileFilter c filter
    if level.any (· ≠ own) then throw (mixedLevels connective)
    let (conditions, level) ← d.compileParts c connective (some own) rest
    return (condition :: conditions, level)

end

/-- Compiles the filters of a request, and joins those of each level by and. -/
def Dataset.conditions (d : Dataset) (c : Ceilings) (filters : List Filter) :
    Except CompileError (Option Sql.Condition × Option Sql.Condition) := do
  let compiled ← filters.mapM (d.compileFilter c)
  let atLevel (level : Level) : Option Sql.Condition :=
    Sql.Condition.junction .and <|
      compiled.filterMap fun (condition, own) => if own = level then some condition else none
  return (atLevel .rows, atLevel .groups)

end AnalyticsGateway
