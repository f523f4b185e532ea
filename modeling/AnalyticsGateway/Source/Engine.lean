import AnalyticsGateway.Json.Record
import AnalyticsGateway.Sql.Dialect

/-!
# Engines

The database systems behind sources.
-/

namespace AnalyticsGateway

inductive Engine where
  | postgresql | mysql | doris | druid
deriving DecidableEq, Repr, Inhabited

namespace Engine

def all : List Engine := [.postgresql, .mysql, .doris, .druid]

def name : Engine → String
  | postgresql => "postgresql"
  | mysql => "mysql"
  | doris => "doris"
  | druid => "druid"

def named? (text : String) : Option Engine := all.find? fun e => e.name == text

theorem named?_name (e : Engine) : named? e.name = some e := by cases e <;> rfl

/-- Also by a customary name, in any case. -/
def parse (text : String) : Except String Engine :=
  match Text.lowercase text with
  | "postgresql" | "postgres" => .ok postgresql
  | "mysql" | "mariadb" => .ok mysql
  | "doris" => .ok doris
  | "druid" => .ok druid
  | _ => .error s!"Unsupported database engine: {text}"

def dialect : Engine → Dialect
  | postgresql => .postgresql
  | mysql => .mysql
  | doris => .doris
  | druid => .druid

end Engine

/-! ## Settings of sources -/

/-- A source and how to reach it. -/
structure SourceSettings where
  id : String
  engine : Engine
  url : String
  poolSize : Nat := 16
deriving DecidableEq, Repr, Inhabited

namespace SourceSettings

def fields : List Json.FieldName :=
  [.needed "id", .needed "engine", .needed "url", .defaulted "pool_size"]

def ofJson? (json : Json) : Option SourceSettings := do
  let r ← json.record? fields
  return {
    id := ← r.required "id" Json.text?
    engine := ← r.required "engine" (Json.name? Engine.named?)
    url := ← r.required "url" Json.text?
    poolSize := ← r.getD "pool_size" Json.natural? 16 }

end SourceSettings

end AnalyticsGateway
