import AnalyticsGateway.Decimal.Value
import AnalyticsGateway.Sql.Grammar.Basic

/-!
# Names and values

Names of columns and tables, what stands for another name, and values that are written out.
-/

namespace AnalyticsGateway.Sql.Grammar

open Take

/-! ## names -/

def isPlainText : Token → Bool
  | .literal .single _ | .literal .double _ => true
  | _ => false

/-- A name; a text in quotes stands for one too. -/
def name : Take Unit := expect fun token => token.isName || isPlainText token

def objectName : Take Unit := listBy "." name

/-- Names in parentheses, which may be missing. -/
def optionalNames (mayBeEmpty : Bool) (item : Take Unit) : Take Unit := do
  if ← sign "(" then
    if mayBeEmpty && (← sign ")") then return
    commaList item
    expectSign ")"

def nameList : Take Unit := parenthesized (commaList name)

/-! ## values -/

/-- A text without escapes. -/
def text : Take Unit := expect isPlainText

/-- Further texts in a row, which some dialects join to the first. -/
def moreTexts : Take Unit := do
  if ← among [.mysql] then repeatWhile (takeIf isPlainText)

/-- What a colon or an at sign stands before, without a blank. -/
def placeholderName : Take Unit := do
  match ← get with
  | ⟨.word .., false⟩ :: rest
  | ⟨.quotedName .., false⟩ :: rest
  | ⟨.number _ false, false⟩ :: rest => set rest
  | _ => mismatch

def value : Take Unit := do
  match ← next with
  | .word _ "TRUE" | .word _ "FALSE" | .word _ "NULL" => return
  | .quotedName '"' _ => return
  | .literal .single _ | .literal .double _ => moreTexts
  | .literal .. | .number .. | .placeholder _ => return
  | .sign ":" | .sign "@" => placeholderName
  | _ => mismatch

def isNatural (digits : String) : Bool :=
  !digits.isEmpty && digits.toList.all Char.isDigit &&
    Decimal.ofDigits 0 digits.toList < wordSize 64

/-- A whole number without a sign. -/
def natural : Take Unit :=
  expect fun token => match token with
    | .number digits _ => isNatural digits
    | _ => false

def number : Take Unit :=
  expect fun token => match token with
    | .number .. | .placeholder _ => true
    | _ => false

/-- A whole number with or without a sign. -/
def integer : Take Unit := do
  if !(← sign "-") then discard (sign "+")
  natural

/-! ## what stands for another name -/

/-- Words that end an item of a projection. -/
def endsItem : List String :=
  ["WITH", "EXPLAIN", "ANALYZE", "SELECT", "WHERE", "GROUP", "SORT", "HAVING", "ORDER", "TOP",
   "LATERAL", "VIEW", "LIMIT", "OFFSET", "FETCH", "UNION", "EXCEPT", "EXCLUDE", "INTERSECT",
   "MINUS", "CLUSTER", "DISTRIBUTE", "RETURNING", "VALUES", "FROM", "INTO", "END"]

/-- Words that end a table. -/
def endsTable : List String :=
  ["WITH", "EXPLAIN", "ANALYZE", "SELECT", "WHERE", "GROUP", "SORT", "HAVING", "ORDER", "PIVOT",
   "UNPIVOT", "TOP", "LATERAL", "VIEW", "LIMIT", "OFFSET", "FETCH", "UNION", "EXCEPT", "INTERSECT",
   "MINUS", "ON", "JOIN", "INNER", "CROSS", "FULL", "LEFT", "RIGHT", "NATURAL", "USING", "CLUSTER",
   "DISTRIBUTE", "GLOBAL", "ANTI", "SEMI", "RETURNING", "ASOF", "MATCH_CONDITION", "OUTER", "SET",
   "QUALIFY", "WINDOW", "END", "FOR", "PARTITION", "PREWHERE", "SETTINGS", "FORMAT", "START",
   "CONNECT", "MATCH_RECOGNIZE", "SAMPLE", "TABLESAMPLE", "FROM", "OPEN"]

/-- Words that end a table in one family of dialects. -/
def endsHintedTable : List String := ["USE", "IGNORE", "FORCE", "STRAIGHT_JOIN"]

/-- Another name, after `AS` or without it; a word that ends what is named is none without it. -/
def newName (ends : List String) : Take Bool := do
  let isMarked ← keyword "AS"
  match ← peek with
  | some token =>
    if isPlainText token || (token.isName && (isMarked || !token.keyword?.any ends.contains)) then
      skip
      return true
    else if isMarked then mismatch
    else return false
  | none => if isMarked then mismatch else return false

def newItemName : Take Unit := discard (newName endsItem)

end AnalyticsGateway.Sql.Grammar
