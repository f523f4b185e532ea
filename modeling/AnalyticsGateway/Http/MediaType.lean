/-!
# Media types

The type of a message's body, as in `application/json; charset=utf-8`. Parameters follow the type,
each with a name and a value, which may be quoted. A blank is allowed before a parameter and after a
quoted value.
-/

namespace AnalyticsGateway

structure MediaType where
  kind : String
  /-- What follows the slash, up to the last plus sign. -/
  subkind : String
  /-- What follows the last plus sign. -/
  suffix? : Option String := none
deriving DecidableEq, Repr, Inhabited

namespace MediaType

/-- Characters of names and of values without quotes. -/
def isTokenChar (c : Char) : Bool := c.isAlphanum || "!#$%&'+-.^_`|~".contains c

/-! ## parameters -/

/-- Where in the parameters a character stands. -/
inductive Place where
  /-- Before a name. -/
  | start
  | name
  /-- Just behind an equals sign. -/
  | value
  | plain
  /-- Just behind a quotation mark. -/
  | opened
  | quoted
  /-- Behind a quoted value. -/
  | closed
deriving DecidableEq, Repr, Inhabited

namespace Place

/-- The place behind a character, if it may stand here. The first character of a quoted value may
be a quotation mark itself. -/
def after? (place : Place) (c : Char) : Option Place :=
  let isQuotable := ' ' ≤ c && c ≠ '\x7f'
  match place with
  | start => if c = ' ' then some start else if isTokenChar c then some name else none
  | name => if c = '=' then some value else if isTokenChar c then some name else none
  | value => if c = '"' then some opened else if isTokenChar c then some plain else none
  | plain => if c = ';' then some start else if isTokenChar c then some plain else none
  | opened => if isQuotable then some quoted else none
  | quoted => if c = '"' then some closed else if isQuotable then some quoted else none
  | closed => if c = ';' then some start else if c = ' ' then some closed else none

/-- Whether the parameters may end here. -/
def isEnd : Place → Bool
  | start | value | plain | closed => true
  | name | opened | quoted => false

end Place

def areParameters (chars : List Char) : Bool :=
  (chars.foldlM Place.after? Place.start).any Place.isEnd

/-! ## types -/

/-- Letters of a type are read in lower case. -/
def lowered (chars : List Char) : String := String.ofList (chars.map Char.toLower)

/-- A subtype with its suffix. The plus sign of a suffix is not the first character. -/
def ofNames (kind subkind : List Char) : MediaType :=
  let (suffix, rest) := subkind.reverse.span (· ≠ '+')
  match rest with
  | [] | [_] => ⟨lowered kind, lowered subkind, none⟩
  | _ :: rest => ⟨lowered kind, lowered rest.reverse, some (lowered suffix.reverse)⟩

def read? (text : String) : Option MediaType := do
  guard (text.toList.all fun c => ' ' ≤ c && c < '\x7f')
  let (kind, rest) := text.toList.span isTokenChar
  let '/' :: rest := rest | none
  guard (!kind.isEmpty)
  let (subkind, rest) := rest.span isTokenChar
  match rest with
  | [] => return ofNames kind subkind
  | c :: parameters =>
    guard (c = ';' ∧ subkind ≠ [] ∧ areParameters parameters)
    return ofNames kind subkind

/-- Whether the data is JSON: `application/json`, or a type with the suffix `json`. -/
def isJson (m : MediaType) : Bool :=
  m.kind == "application" && (m.subkind == "json" || m.suffix? == some "json")

end MediaType

end AnalyticsGateway
