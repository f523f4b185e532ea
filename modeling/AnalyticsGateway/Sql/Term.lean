import AnalyticsGateway.Text.Split

/-!
# Terms

What a query selects, groups and compares. Columns and trusted fragments are read from a row; a term
of rows may truncate one to a time grain; only an aggregate looks at a group of rows.
-/

namespace AnalyticsGateway

/-! ## aggregate functions and time grains -/

inductive Aggregate where
  | sum | count | countDistinct | avg | min | max | approxCountDistinct | median
deriving DecidableEq, Repr, Inhabited

namespace Aggregate

def all : List Aggregate :=
  [.sum, .count, .countDistinct, .avg, .min, .max, .approxCountDistinct, .median]

def name : Aggregate → String
  | sum => "sum"
  | count => "count"
  | countDistinct => "count_distinct"
  | avg => "avg"
  | min => "min"
  | max => "max"
  | approxCountDistinct => "approx_count_distinct"
  | median => "median"

def named? (text : String) : Option Aggregate := all.find? fun f => f.name == text

theorem named?_name (f : Aggregate) : named? f.name = some f := by cases f <;> rfl

end Aggregate

/-- The units that times are truncated to. -/
inductive TimeGrain where
  | minute | hour | day | week | month | quarter | year
deriving DecidableEq, Repr, Inhabited

namespace TimeGrain

def all : List TimeGrain := [.minute, .hour, .day, .week, .month, .quarter, .year]

def name : TimeGrain → String
  | minute => "minute"
  | hour => "hour"
  | day => "day"
  | week => "week"
  | month => "month"
  | quarter => "quarter"
  | year => "year"

def named? (text : String) : Option TimeGrain := all.find? fun g => g.name == text

theorem named?_name (g : TimeGrain) : named? g.name = some g := by cases g <;> rfl

theorem name_of_named? {text : String} {g : TimeGrain} (h : named? text = some g) :
    g.name = text := by
  simpa using List.find?_some h

def parse (text : String) : Except String TimeGrain :=
  match named? text with
  | some grain => .ok grain
  | none => .error s!"unknown time grain '{text}'"

end TimeGrain

namespace Sql

/-! ## terms -/

structure Column where
  qualifier : Option String
  name : String
deriving DecidableEq, Repr, Inhabited

namespace Column

/-- `alias.column`, cut at the first point; a bare name belongs to the given alias. -/
def ofReference (reference defaultAlias : String) : Column :=
  match Text.splitFirst '.' reference with
  | some (aliasName, name) => ⟨some aliasName, name⟩
  | none => ⟨some defaultAlias, reference⟩

end Column

/-- A value read from a row. -/
inductive RowTerm where
  | column (column : Column)
  /-- SQL text of the catalog's author. -/
  | fragment (sql : String)
deriving DecidableEq, Repr, Inhabited

inductive Term where
  | row (term : RowTerm)
  | truncated (grain : TimeGrain) (term : RowTerm)
  | aggregate (function : Aggregate) (argument : Option RowTerm)
deriving DecidableEq, Repr, Inhabited

namespace RowTerm

def qualifiers : RowTerm → List String
  | column c => c.qualifier.toList
  | fragment _ => []

def fragments : RowTerm → List String
  | column _ => []
  | fragment sql => [sql]

end RowTerm

namespace Term

def rowTerms : Term → List RowTerm
  | row t | truncated _ t => [t]
  | aggregate _ argument => argument.toList

/-- The aliases that qualify columns of the term. -/
def qualifiers (t : Term) : List String := t.rowTerms.flatMap RowTerm.qualifiers

def fragments (t : Term) : List String := t.rowTerms.flatMap RowTerm.fragments

def isAggregate : Term → Bool
  | aggregate .. => true
  | _ => false

end Term

end Sql

end AnalyticsGateway
