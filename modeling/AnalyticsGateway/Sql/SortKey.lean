import AnalyticsGateway.Decimal.Layout
import AnalyticsGateway.Sql.Condition
import AnalyticsGateway.Text.Quoted

/-!
# Sort keys and junctions

Every literal and condition has a full written form, from which it can be told apart. The order of
these texts is the order in which the parts of a group and the values of a list are kept.

Conditions joined by one connective have a form that does not depend on how they were ordered,
nested or repeated: parts of groups of the connective are joined directly, parts are sorted by their
keys, equal neighbours are kept once, and one part stands for itself.
-/

namespace AnalyticsGateway.Sql

/-- Numbers keep a point, and are written with an exponent below `1e-4` and from `1e16`. -/
def sortKeyNumbers : NumberLayout where
  positional leading := -4 ≤ leading && leading ≤ 15
  pointed := true
  signed := false

def booleanKey : Bool → String
  | true => "true"
  | false => "false"

/-- A record of named fields. -/
def recordKey (name : String) (fields : List (String × String)) : String :=
  name ++ " \x7b " ++ ", ".intercalate (fields.map fun f => f.1 ++ ": " ++ f.2) ++ " \x7d"

def applicationKey (name argument : String) : String := name ++ "(" ++ argument ++ ")"

def listKey (items : List String) : String := "[" ++ ", ".intercalate items ++ "]"

def optionKey : Option String → String
  | some key => applicationKey "Some" key
  | none => "None"

def Literal.sortKey : Literal → String
  | boolean b => applicationKey "Boolean" (booleanKey b)
  | integer n => applicationKey "Integer" (String.ofList (NumberLayout.integer n))
  | float x => applicationKey "Float" (sortKeyNumbers.write x)
  | text s => applicationKey "String" (Text.quote s)

def Column.recordKey (c : Column) : String :=
  Sql.recordKey "ColumnRef"
    [("qualifier", optionKey (c.qualifier.map Text.quote)), ("name", Text.quote c.name)]

def aggregateKey : Aggregate → String
  | .sum => "Sum"
  | .count => "Count"
  | .countDistinct => "CountDistinct"
  | .avg => "Avg"
  | .min => "Min"
  | .max => "Max"
  | .approxCountDistinct => "ApproxCountDistinct"
  | .median => "Median"

def grainKey : TimeGrain → String
  | .minute => "Minute"
  | .hour => "Hour"
  | .day => "Day"
  | .week => "Week"
  | .month => "Month"
  | .quarter => "Quarter"
  | .year => "Year"

def comparisonKey : Comparison → String
  | .equal => "Eq"
  | .notEqual => "NotEq"
  | .greater => "Gt"
  | .greaterEqual => "GtEq"
  | .less => "Lt"
  | .lessEqual => "LtEq"

def connectiveKey : Connective → String
  | .and => "And"
  | .or => "Or"

def RowTerm.sortKey : RowTerm → String
  | column c => applicationKey "Column" c.recordKey
  | fragment sql => applicationKey "Raw" (Text.quote sql)

def Term.sortKey : Term → String
  | row t => t.sortKey
  | truncated grain t => recordKey "DateTrunc" [("grain", grainKey grain), ("expr", t.sortKey)]
  | aggregate f argument =>
    recordKey "Aggregate"
      [("func", aggregateKey f), ("arg", optionKey (argument.map RowTerm.sortKey))]

def Test.sortKey (term : String) : Test → String
  | compare c value =>
    recordKey "Compare"
      [("left", term), ("op", comparisonKey c), ("right", applicationKey "Literal" value.sortKey)]
  | among values negated =>
    recordKey "InList"
      [("expr", term), ("list", listKey (values.map Literal.sortKey)),
       ("negated", booleanKey negated)]
  | between low high =>
    recordKey "Between" [("expr", term), ("low", low.sortKey), ("high", high.sortKey)]
  | like pattern negated =>
    recordKey "Like"
      [("expr", term), ("pattern", Text.quote pattern), ("negated", booleanKey negated)]
  | isNull negated => recordKey "IsNull" [("expr", term), ("negated", booleanKey negated)]

mutual

def Condition.sortKey : Condition → String
  | .test term check => check.sortKey term.sortKey
  | .guard column tenant =>
    recordKey "TenantGuard" [("column", column.recordKey), ("tenant_id", Text.quote tenant)]
  | .not c => applicationKey "Not" c.sortKey
  | .group connective parts =>
    applicationKey (connectiveKey connective) (listKey (Condition.sortKeys parts))

def Condition.sortKeys : List Condition → List String
  | [] => []
  | c :: rest => c.sortKey :: Condition.sortKeys rest

end

/-! ## junctions -/

/-- Sorts by key, keeping the order of items with the same key. -/
def sortByKey {α : Type} (key : α → String) (items : List α) : List α :=
  ((items.map fun item => (key item, item)).mergeSort fun a b => decide (a.1 ≤ b.1)).map (·.2)

/-- Keeps the first of each run of equal items. -/
def dropRepeats {α : Type} (same : α → α → Bool) : List α → List α
  | [] => []
  | item :: rest => item :: go item rest
where
  /-- The items that are kept after one that was. -/
  go (last : α) : List α → List α
    | [] => []
    | item :: rest => if same last item then go last rest else item :: go item rest

/-- The distinct values of a list, in key order. -/
def Literal.distinct (values : List Literal) : List Literal :=
  dropRepeats Literal.same (sortByKey Literal.sortKey values)

/-- The parts of a junction. -/
def Condition.junctionParts (connective : Connective) (parts : List Condition) : List Condition :=
  dropRepeats Condition.same
    (sortByKey Condition.sortKey (parts.flatMap (Condition.partsOf connective)))

/-- The junction of some conditions; of none there is none. -/
def Condition.junction (connective : Connective) (parts : List Condition) : Option Condition :=
  match junctionParts connective parts with
  | [] => none
  | [part] => some part
  | parts => some (.group connective parts)

end AnalyticsGateway.Sql
