import AnalyticsGateway.Json.Basic

/-!
# Records in JSON

A record is written as an object, in which unknown fields are skipped and a field given twice, under
its name or another one, is refused; or as an array of its fields in their order, in which fields at
the end may be left out if they have a default.
-/

namespace AnalyticsGateway.Json

/-- One field of a record as it may be written. -/
structure FieldName where
  name : String
  otherName : Option String := none
  hasDefault : Bool := false

namespace FieldName

def needed (name : String) : FieldName := { name }

def defaulted (name : String) : FieldName := { name, hasDefault := true }

def accepts (field : FieldName) (written : String) : Bool :=
  written == field.name || some written == field.otherName

end FieldName

/-- The fields that a record was written with, under their names. -/
structure Record where
  fields : List (String × Json)

/-- The only value given for a field; none if it is given twice. -/
def givenOnce? (fields : List (String × Json)) (field : FieldName) :
    Option (Option (String × Json)) :=
  match fields.filter fun given => field.accepts given.1 with
  | [] => some none
  | [given] => some (some (field.name, given.2))
  | _ => none

/-- Pairs the items of an array with the fields of a record. -/
def positional? : List FieldName → List Json → Option (List (String × Json))
  | [], [] => some []
  | [], _ :: _ => none
  | fields, [] => if fields.all (·.hasDefault) then some [] else none
  | field :: fields, item :: items =>
    (positional? fields items).map fun given => (field.name, item) :: given

/-- A value read as a record. -/
def record? (fields : List FieldName) (json : Json) : Option Record :=
  match json with
  | .object given => return ⟨(← fields.mapM (givenOnce? given)).filterMap id⟩
  | .array items => (positional? fields items).map fun given => ⟨given⟩
  | _ => none

namespace Record

variable {α : Type}

def get? (r : Record) (name : String) : Option Json := SortedMap.lookup name r.fields

/-- A field that has to be there. -/
def required (r : Record) (name : String) (decode? : Json → Option α) : Option α := do
  decode? (← r.get? name)

/-- A field with a default; null is not the default. -/
def getD (r : Record) (name : String) (decode? : Json → Option α) (default : α) : Option α :=
  match r.get? name with
  | some json => decode? json
  | none => some default

/-- A field whose value may be absent or null. -/
def nullable (r : Record) (name : String) (decode? : Json → Option α) : Option (Option α) :=
  r.getD name (option? decode?) none

end Record

end AnalyticsGateway.Json
