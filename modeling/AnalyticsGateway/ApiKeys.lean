import AnalyticsGateway.Error
import AnalyticsGateway.Json.Record
import AnalyticsGateway.Text.Blank

/-!
# API keys

A caller is known by the key that it bears in its authorization header.
-/

namespace AnalyticsGateway

/-- A key and whom it stands for. -/
structure ApiKey where
  id : String
  key : String
  tenant : String
  role : Role
deriving DecidableEq, Repr, Inhabited

namespace ApiKey

def fields : List Json.FieldName :=
  [.needed "id", .needed "key", .needed "tenant_id", .needed "role"]

def toJson (k : ApiKey) : Json :=
  .object
    [("id", .text k.id), ("key", .text k.key), ("tenant_id", .text k.tenant),
     ("role", .text k.role.name)]

def ofJson? (json : Json) : Option ApiKey := do
  let r ← json.record? fields
  return {
    id := ← r.required "id" Json.text?
    key := ← r.required "key" Json.text?
    tenant := ← r.required "tenant_id" Json.text?
    role := ← r.required "role" (Json.name? Role.named?) }

def caller (k : ApiKey) : Caller := ⟨k.tenant, k.role, k.id⟩

end ApiKey

/-- The callers by key. -/
abbrev ApiKeys := SortedMap Caller

namespace ApiKeys

/-- Of two entries with one key the later counts. -/
def ofList (entries : List ApiKey) : ApiKeys :=
  SortedMap.ofList (entries.map fun entry => (entry.key, entry.caller))

/-- What follows a prefix. -/
def afterPrefix? (start text : String) : Option String :=
  let chars := text.toList
  if start.toList.isPrefixOf chars then some (String.ofList (chars.drop start.length)) else none

def resolve (keys : ApiKeys) : Option String → Except GatewayError Caller
  | none => throw (.unauthorized "Missing Authorization header")
  | some header =>
    match afterPrefix? "Bearer " header with
    | none => throw (.unauthorized "Invalid Authorization format. Expected: Bearer <key>")
    | some token =>
      match keys.get? (Text.trim token) with
      | some caller => return caller
      | none => throw (.unauthorized "Unknown API key")

end ApiKeys

end AnalyticsGateway
