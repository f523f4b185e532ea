import AnalyticsGateway.Sql.Dialect
import AnalyticsGateway.Sql.Piece
import AnalyticsGateway.Sql.Term

/-!
# Functions by dialect

Truncation of times, aggregates and row limits differ between dialects; what a dialect cannot
express is an error.
-/

namespace AnalyticsGateway.Sql

/-- A function applied to pieces. -/
def call (function : String) (arguments : List Piece) : List Piece :=
  .fixed (function ++ "(") :: arguments ++ [.fixed ")"]

/-! ## truncation -/

/-- The format that keeps the part of a date that a grain keeps; none for weeks and quarters. -/
def truncationFormat? : TimeGrain → Option String
  | .minute => some "%Y-%m-%d %H:%i:00"
  | .hour => some "%Y-%m-%d %H:00:00"
  | .day => some "%Y-%m-%d 00:00:00"
  | .month => some "%Y-%m-01 00:00:00"
  | .year => some "%Y-01-01 00:00:00"
  | .week | .quarter => none

/-- The length of a grain as a period. -/
def period : TimeGrain → String
  | .minute => "PT1M"
  | .hour => "PT1H"
  | .day => "P1D"
  | .week => "P1W"
  | .month => "P1M"
  | .quarter => "P3M"
  | .year => "P1Y"

def truncation (dialect : Dialect) (grain : TimeGrain) (argument : List Piece) :
    Except RenderError (List Piece) :=
  match dialect with
  | .postgresql | .generic =>
    .ok (call "DATE_TRUNC" (.text grain.name :: .fixed ", " :: argument))
  | .doris => .ok (call "DATE_TRUNC" (argument ++ [.fixed ", ", .text grain.name]))
  | .druid => .ok (call "TIME_FLOOR" (argument ++ [.fixed ", ", .text (period grain)]))
  | .mysql =>
    match truncationFormat? grain with
    | some format =>
      let formatted := call "DATE_FORMAT" (argument ++ [.fixed ", ", .text format])
      .ok (call "CAST" (formatted ++ [.fixed " AS DATETIME"]))
    | none => .error (.unsupported dialect s!"{grain.name} truncation")

/-! ## aggregates -/

/-- The aggregates that all dialects share. -/
def sharedAggregate (dialect : Dialect) (function : Aggregate) (argument : Option (List Piece)) :
    Except RenderError (List Piece) :=
  match function, argument with
  | .approxCountDistinct, _ => .error (.unsupported dialect "approximate distinct count")
  | .median, _ => .error (.unsupported dialect "median")
  | .count, argument => .ok (call "COUNT" (argument.getD [.fixed "*"]))
  | .countDistinct, some argument => .ok (call "COUNT" (.fixed "DISTINCT " :: argument))
  | .sum, some argument => .ok (call "SUM" argument)
  | .avg, some argument => .ok (call "AVG" argument)
  | .min, some argument => .ok (call "MIN" argument)
  | .max, some argument => .ok (call "MAX" argument)
  | function, none => .error (.unsupported dialect s!"{function.name} without an argument")

def aggregation (dialect : Dialect) (function : Aggregate) (argument : Option (List Piece)) :
    Except RenderError (List Piece) :=
  match dialect, function, argument with
  | .postgresql, .median, some argument | .generic, .median, some argument =>
    .ok (.fixed "PERCENTILE_CONT(0.5) WITHIN GROUP (ORDER BY " :: argument ++ [.fixed ")"])
  | .doris, .median, some argument => .ok (call "PERCENTILE" (argument ++ [.fixed ", 0.5"]))
  | .doris, .approxCountDistinct, some argument | .druid, .approxCountDistinct, some argument =>
    .ok (call "APPROX_COUNT_DISTINCT" argument)
  | dialect, function, argument => sharedAggregate dialect function argument

/-! ## row limits -/

def rowLimit (dialect : Dialect) (limit : Nat) (offset : Option Nat) : List Piece :=
  match dialect, offset with
  | .generic, some offset =>
    [.fixed s!"OFFSET {offset} ROWS FETCH FIRST {limit} ROWS ONLY"]
  | .generic, none => [.fixed s!"FETCH FIRST {limit} ROWS ONLY"]
  | _, some offset => [.fixed s!"LIMIT {limit} OFFSET {offset}"]
  | _, none => [.fixed s!"LIMIT {limit}"]

end AnalyticsGateway.Sql
