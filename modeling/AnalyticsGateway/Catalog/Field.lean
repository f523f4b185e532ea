import AnalyticsGateway.Sql.Term

/-!
# Fields of a dataset

Dimensions, which group rows, and metrics, which aggregate them.
-/

namespace AnalyticsGateway

/-- The declared type of a field. -/
inductive FieldType where
  | string | integer | float | decimal | boolean | date | timestamp
deriving DecidableEq, Repr, Inhabited

namespace FieldType

def all : List FieldType := [.string, .integer, .float, .decimal, .boolean, .date, .timestamp]

def name : FieldType → String
  | string => "string"
  | integer => "integer"
  | float => "float"
  | decimal => "decimal"
  | boolean => "boolean"
  | date => "date"
  | timestamp => "timestamp"

/-- The name with a capital, as messages have it. -/
def title : FieldType → String
  | string => "String"
  | integer => "Integer"
  | float => "Float"
  | decimal => "Decimal"
  | boolean => "Boolean"
  | date => "Date"
  | timestamp => "Timestamp"

def named? (text : String) : Option FieldType := all.find? fun t => t.name == text

theorem named?_name (t : FieldType) : named? t.name = some t := by cases t <;> rfl

def isNumeric : FieldType → Bool
  | integer | float | decimal => true
  | _ => false

def isTemporal : FieldType → Bool
  | date | timestamp => true
  | _ => false

end FieldType

/-- Where the values of a field come from. -/
inductive FieldSource where
  /-- A column, of a join if it is qualified with its alias, and else of the base relation. -/
  | column (reference : String)
  /-- An expression written by the catalog's author. -/
  | sql (expression : String)
deriving DecidableEq, Repr, Inhabited

structure Dimension where
  source : FieldSource
  type : FieldType
  /-- The grain when the dimension is requested without one. -/
  grain : Option TimeGrain := none
  description : Option String := none
deriving DecidableEq, Repr, Inhabited

structure Metric where
  aggregation : Aggregate
  /-- Without a source, rows are counted. -/
  source : Option FieldSource := none
  type : FieldType := .float
  description : Option String := none
deriving DecidableEq, Repr, Inhabited

end AnalyticsGateway
