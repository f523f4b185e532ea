import AnalyticsGateway.Json.Reader
import AnalyticsGateway.Request.Basic

/-!
# Requests in JSON

A filter is an object with one of the keys `and`, `or` and `not`, tried in this order, or else a
predicate. A predicate may also be an array of its fields.
-/

namespace AnalyticsGateway

/-! ## writing -/

def Predicate.toJson (p : Predicate) : Json :=
  .object [("field", .text p.field), ("operator", .text p.operator), ("value", p.value)]

mutual

def Filter.toJson : Filter → Json
  | .and parts => .object [("and", .array (Filter.toJsonAll parts))]
  | .or parts => .object [("or", .array (Filter.toJsonAll parts))]
  | .not filter => .object [("not", filter.toJson)]
  | .predicate p => p.toJson

def Filter.toJsonAll : List Filter → List Json
  | [] => []
  | filter :: rest => filter.toJson :: Filter.toJsonAll rest

end

def SortDirection.all : List SortDirection := [.ascending, .descending]

def SortDirection.name : SortDirection → String
  | ascending => "asc"
  | descending => "desc"

def SortDirection.named? (text : String) : Option SortDirection :=
  all.find? fun direction => direction.name == text

def SortField.toJson (s : SortField) : Json :=
  .object [("field", .text s.field), ("direction", .text s.direction.name)]

def Request.toJson (r : Request) : Json :=
  .object
    [("dataset_id", .text r.dataset), ("dimensions", .ofList .text r.dimensions),
     ("metrics", .ofList .text r.metrics), ("filters", .ofList Filter.toJson r.filters),
     ("sort", .ofList SortField.toJson r.sort), ("limit", .ofOption .ofNat r.limit),
     ("offset", .ofOption .ofNat r.offset)]

/-! ## reading -/

open Json (FieldName)

def Predicate.fields : List FieldName :=
  [.needed "field", ⟨"operator", some "op", false⟩, .defaulted "value"]

def Predicate.ofJson? (json : Json) : Option Predicate := do
  let r ← json.record? fields
  return {
    field := ← r.required "field" Json.text?
    operator := ← r.required "operator" Json.text?
    value := ← r.getD "value" some .null }

namespace Filter

/-- What a field of an object would be as the content of a filter. -/
structure Reading where
  name : String
  /-- As the parts of a group. -/
  parts : Option (List Filter)
  /-- As the filter that is negated. -/
  filter : Option Filter

/-- The only field of this name. -/
def reading? (readings : List Reading) (name : String) : Option Reading :=
  match readings.filter fun r => r.name == name with
  | [reading] => some reading
  | _ => none

/-- The first alternative that the fields of an object fit. -/
def ofReadings? (readings : List Reading) : Option Filter :=
  (reading? readings "and").bind (·.parts.map .and) <|>
    (reading? readings "or").bind (·.parts.map .or) <|>
      (reading? readings "not").bind (·.filter.map .not)

mutual

def ofJson? (json : Json) : Option Filter :=
  match json with
  | .object fields =>
    ofReadings? (readings fields) <|>
      (Predicate.ofJson? (.object fields)).map .predicate
  | json => (Predicate.ofJson? json).map .predicate

def partsOfJson? (json : Json) : Option (List Filter) :=
  match json with
  | .array items => ofItems? items
  | _ => none

def ofItems? (items : List Json) : Option (List Filter) :=
  match items with
  | [] => some []
  | item :: rest => do
    let filter ← ofJson? item
    return filter :: (← ofItems? rest)

def readings (fields : List (String × Json)) : List Reading :=
  match fields with
  | [] => []
  | (name, value) :: rest => ⟨name, partsOfJson? value, ofJson? value⟩ :: readings rest

end

end Filter

def SortDirection.form : Json.Form := .name (all.map name)

def SortField.fields : List Json.Field :=
  [.needed "field" .text, .defaulted "direction" SortDirection.form]

def SortField.ofJson? (json : Json) : Option SortField := do
  let r ← json.recordOf? fields
  return {
    field := ← r.required "field" Json.text?
    direction := ← r.getD "direction" (Json.name? SortDirection.named?) .ascending }

def Filter.form : Json.Form := .value fun json => (Filter.ofJson? json).isSome

def Request.fields : List Json.Field :=
  [(⟨"dataset_id", some "dataset", false⟩, .text), .defaulted "dimensions" (.list .text),
   .defaulted "metrics" (.list .text), .defaulted "filters" (.list Filter.form),
   .defaulted "sort" (.list (.record "field" SortField.fields)),
   .defaulted "limit" (.nullable .natural), .defaulted "offset" (.nullable .natural)]

def Request.ofJson? (json : Json) : Option Request := do
  let r ← json.recordOf? fields
  return {
    dataset := ← r.required "dataset_id" Json.text?
    dimensions := ← r.getD "dimensions" (Json.list? Json.text?) []
    metrics := ← r.getD "metrics" (Json.list? Json.text?) []
    filters := ← r.getD "filters" (Json.list? Filter.ofJson?) []
    sort := ← r.getD "sort" (Json.list? SortField.ofJson?) []
    limit := ← r.nullable "limit" Json.natural?
    offset := ← r.nullable "offset" Json.natural? }

/-- The request that a text writes. -/
def Request.ofText (text : String) : Except Json.Fault Request := do
  match Request.ofJson? (← Json.readAs (.record "request" Request.fields) text) with
  | some request => return request
  | none => throw (.unfit ⟨"data did not match", {}⟩)

end AnalyticsGateway
