import AnalyticsGateway.Json.Record
import AnalyticsGateway.Json.Writer
import AnalyticsGateway.Text.Quoted

/-!
# Forms of JSON data

What a reader expects at a place of a text. A form says which values fit; what a reader has no use
for is skipped without a look at what its texts and numbers stand for.
-/

namespace AnalyticsGateway.Json

/-- What is expected of a text, a number or a word. -/
structure ScalarForm where
  /-- As messages name it. -/
  title : String
  fits : Json → Bool
  /-- Whether every whole number is of the right kind, though it may not fit. -/
  isWhole : Bool := false
deriving Inhabited

inductive Form where
  /-- What is not used. -/
  | skipped
  /-- Any value that passes a test. -/
  | value (fits : Json → Bool)
  | scalar (form : ScalarForm)
  /-- Null, or what the form says. -/
  | nullable (content : Form)
  | list (item : Form)
  | map (value : Form)
  | record (title : String) (fields : List (FieldName × Form))
  /-- One of some names, alone or as the only key of an object with value null. -/
  | name (names : List String)
  /-- An object whose only key is a tag. -/
  | tagged (contents : List (String × Form))
deriving Inhabited

namespace Form

def any : Form := value fun _ => true

def text : Form := scalar ⟨"a string", fun json => json.text?.isSome, false⟩

def boolean : Form := scalar ⟨"a boolean", fun json => json.boolean?.isSome, false⟩

def natural : Form := scalar ⟨"u64", fun json => json.natural?.isSome, true⟩

def integer : Form := scalar ⟨"i64", fun json => json.integer?.isSome, true⟩

def float : Form := scalar ⟨"f64", fun json => json.float?.isSome, false⟩

def null : Form := scalar ⟨"unit", (· matches .null), false⟩

end Form

/-- One field of a record, and the form of its value. -/
abbrev Field := FieldName × Form

namespace Field

def needed (name : String) (form : Form) : Field := (.needed name, form)

def defaulted (name : String) (form : Form) : Field := (.defaulted name, form)

end Field

/-- A value read as a record with these fields. -/
def recordOf? (fields : List Field) (json : Json) : Option Record :=
  json.record? (fields.map (·.1))

/-! ## messages -/

/-- A value as a message names it. -/
def described : Json → String
  | null => "null"
  | boolean value => s!"boolean `{value}`"
  | integer n => s!"integer `{n}`"
  | float x => "floating point `" ++ String.ofList (writeFloat x) ++ "`"
  | text value => s!"string {Text.quote value}"
  | array _ => "sequence"
  | object _ => "map"

def invalidType (unexpected expected : String) : String :=
  s!"invalid type: {unexpected}, expected {expected}"

namespace ScalarForm

/-- Why a value does not fit. -/
def complaint (form : ScalarForm) (json : Json) : String :=
  if form.isWhole && json matches .integer _ then
    s!"invalid value: {json.described}, expected {form.title}"
  else invalidType json.described form.title

end ScalarForm

/-- Names between backticks, as a choice. -/
def choiceText (names : List String) : String :=
  match names.map fun name => s!"`{name}`" with
  | [name] => name
  | [first, second] => s!"{first} or {second}"
  | names => "one of " ++ ", ".intercalate names

def unknownName (name : String) (names : List String) : String :=
  s!"unknown variant `{name}`, expected {choiceText names}"

/-- Why an array has too few items for the fields of a record, after those that were read. -/
def tooShort (title : String) (size length : Nat) : String :=
  let elements := if size = 1 then "1 element" else s!"{size} elements"
  s!"invalid length {length}, expected struct {title} with {elements}"

end AnalyticsGateway.Json
