import AnalyticsGateway.Sql.Grammar.Special

/-!
# Expressions

An operand, the parts of it that are picked out, and the operators behind it, each of which is taken
only if it binds more tightly than the operator before the operand.
-/

namespace AnalyticsGateway.Sql.Grammar

open Take

variable (r : Rules)

/-! ## operands -/

/-- A value behind the name of its type, such as a date. -/
def typedValue : Take Unit := do
  match ← r.soleType with
  | .interval => interval r
  | .custom => mismatch
  | .binary => if ← among [.mysql] then r.any else value
  | .other => value

/-- A name that has been taken, or the call that it begins. A name with a low line in front says how
the text behind it is encoded. -/
def namedOperand (token : Token) : Take Operand := do
  let isIntroducer := match token with
    | .word text _ | .quotedName _ text => text.startsWith "_"
    | _ => false
  match ← peek with
  | some (.sign "(") =>
    call r
    return .term
  | some (.literal .single _) | some (.literal .double _) | some (.literal (.marked "X" _) _) =>
    if isIntroducer then
      skip
      return .other
    else return .name token
  | _ => return .name token

/-- An expression that begins with a word, which has been taken. Where its form does not follow, it
is a name all the same. -/
def wordOperand (token : Token) (keyword : String) : Take Operand :=
  let special : Take Operand := do
    match ← specialForm? r keyword with
    | some operand => return operand
    | none => namedOperand r token
  if reservedWords.contains keyword then special
  else special.orElseKeeping (namedOperand r token)

/-- Several expressions in parentheses, or a query. -/
def parenthesizedOperand : Take Unit := do
  if ← peekOneOf ["SELECT", "WITH"] then r.subquery else commaList r.any
  expectSign ")"

def signOperand (sign : String) : Take Operand := do
  let family := (← read).family
  let before (binding : Binding) : Take Operand := do
    Special.within r binding
    return .other
  match sign with
  | "+" | "-" => before .product
  | "~" => before .sum
  | "(" =>
    parenthesizedOperand r
    return .other
  | "[" =>
    Special.array r
    return .other
  | ":" =>
    placeholderName
    return .term
  | _ =>
    if family = .postgresql &&
        ["!!", "|/", "||/", "@", "#", "@-@", "@@", "?-", "?|"].contains sign then before .sum
    else if sign == "@" then
      placeholderName
      return .term
    else mismatch

/-- An expression without operators behind it. -/
def operand : Take Operand := do
  if (← attempt (typedValue r)).isSome then return .other
  if ← peekSign "\x7b" then return ← Special.braced r
  match ← next with
  | .word text keyword => wordOperand r (.word text keyword) keyword
  | .quotedName quote text => namedOperand r (.quotedName quote text)
  | .literal .single _ | .literal .double _ =>
    moreTexts
    return .term
  | .literal .. | .number .. | .placeholder _ => return .term
  | .sign sign => signOperand r sign
  | _ => mismatch

/-! ## parts -/

/-- What is picked out of an operand. -/
structure Parts where
  /-- Whether only names were picked. -/
  areNames : Bool := true
  isEmpty : Bool := true

/-- An element or a stretch of an array, behind the opening bracket. -/
def subscript : Take Unit := do
  let bound : Take Unit := Special.within r .colon
  if !(← sign ":") then
    bound
    if ← sign "]" then return
    expectSign ":"
  if ← sign "]" then return
  bound
  if ← sign "]" then return
  expectSign ":"
  if ← sign "]" then return
  r.any
  expectSign "]"

/-- What a point picks out, and whether it is a name or a path of names. -/
def part : Take Bool := do
  match ← peek with
  | some (.literal .single _) =>
    skip
    return true
  | some (.placeholder _) =>
    skip
    return true
  | _ =>
    let found ← attempt do
      match ← r.expression (← strengthOf .part) with
      | .name _ | .path => return true
      | .term => return false
      | .other => mismatch
    match found with
    | some isName => return isName
    | none =>
      name
      return true

/-- Goes along the parts that are picked out, at most so many; says which ones there were, and
whether a star ends them. -/
def partsWithin : Nat → Parts → Take (Parts × Bool)
  | 0, _ => tooDeep
  | bound + 1, parts => do
    if ← peekSign "." then
      if (← peekAt 1) == some (.sign "*") then
        if ← among [.postgresql] then
          skip
          skip
          return (parts, true)
        else return (parts, false)
      else
        skip
        let isName ← part r
        partsWithin bound ⟨parts.areNames && isName, false⟩
    else if ← sign "[" then
      subscript r
      partsWithin bound ⟨false, false⟩
    else return (parts, false)

/-- An operand together with the parts that are picked out of it. -/
def withParts (root : Operand) : Take Operand := do
  let (parts, endsInStar) ← partsWithin r ((← get).length + 1) {}
  let areNames := root matches .name _ && parts.areNames
  if endsInStar then
    if areNames then return .other else mismatch
  else if parts.isEmpty then return root
  else return if areNames then .path else .term

/-! ## operators -/

/-- What is on the right of an operator; a comparison may be with any or all of something. -/
def rightSide (strength : Nat) (comparesMany : Bool) : Take Unit := do
  if (← oneOf ["ANY", "ALL", "SOME"]).isSome then
    if !comparesMany then mismatch
    if !(← peekSign "(") then mismatch
    match (← peekAt 1).bind Token.keyword? with
    | some "SELECT" | some "WITH" => discard (r.expression strength)
    | _ => parenthesized (discard (r.expression strength))
  else discard (r.expression strength)

/-- What an operand is tested for, behind `IS`. -/
def test : Take Unit := do
  discard (keyword "NOT")
  if (← oneOf ["NULL", "TRUE", "FALSE", "UNKNOWN"]).isSome then return
  else if ← keywords ["DISTINCT", "FROM"] then r.any
  else
    discard (oneOf ["NFC", "NFD", "NFKC", "NFKD"])
    expectKeyword "NORMALIZED"

/-- The values behind `IN`. -/
def members : Take Unit := do
  if ← keyword "UNNEST" then parenthesized r.any
  else parenthesized do
    if (← attempt r.query).isNone then commaList r.any

def escape : Take Unit := afterKeyword "ESCAPE" value

/-- A text that an operand is like. -/
def likeness : Take Unit := do
  Special.within r .likeness
  escape

/-- A membership, a range or a likeness, which may be denied. -/
def predicate : Take Unit := do
  let isDenied ← keyword "NOT"
  if (← oneOf ["REGEXP", "RLIKE"]).isSome then Special.within r .likeness
  else if isDenied && (← read).place ≠ .column && (← keyword "NULL") then return
  else match ← next with
    | .word _ "IN" => members r
    | .word _ "BETWEEN" =>
      Special.within r .range
      expectKeyword "AND"
      Special.within r .range
    | .word _ "LIKE" | .word _ "ILIKE" =>
      discard (keyword "ANY")
      likeness r
    | .word _ "SIMILAR" =>
      expectKeyword "TO"
      likeness r
    | _ => mismatch

/-- The name of an operator, as in `OPERATOR(schema.+)`. -/
def operatorName : Take Unit := parenthesized <| repeatWhile do
  skip
  sign "."

/-- A key within data, behind a colon or a point. -/
def key : Take Unit := expect fun token => token.isName || token matches .literal .double _

/-- What a colon picks out of data. -/
def dataPath : Take Unit := do
  if ← sign "[" then
    discard (item r)
    expectSign "]"
  else key
  repeatWhile do
    if ← sign "." then
      key
      return true
    else if ← sign "[" then
      discard (item r)
      expectSign "]"
      return true
    else return false

/-- The operator that follows an operand, and what belongs to it. -/
def operatorAndRest (strength : Nat) : Take Unit := do
  let family := (← read).family
  let isDivision ← if family = .mysql then keyword "DIV" else pure false
  if isDivision then r.any
  else match ← peek with
    | some (.word _ keyword) =>
      match keyword with
      | "AND" | "OR" | "XOR" | "OVERLAPS" =>
        skip
        rightSide r strength false
      | "OPERATOR" =>
        if family = .mysql then mismatch
        skip
        operatorName
        rightSide r strength false
      | "IS" =>
        skip
        test r
      | "AT" =>
        expectKeywords ["AT", "TIME", "ZONE"]
        discard (r.expression strength)
      | "NOT" | "IN" | "BETWEEN" | "LIKE" | "ILIKE" | "SIMILAR" | "REGEXP" | "RLIKE" => predicate r
      | "NOTNULL" => skip
      | "MEMBER" =>
        expectKeywords ["MEMBER", "OF"]
        parenthesized r.any
      | _ => mismatch
    | some (.madeUp _) =>
      skip
      rightSide r strength false
    | some (.sign sign) =>
      skip
      if isBinarySign family sign then rightSide r strength (comparesMany sign)
      else if sign == "::" then discard r.soleType
      else if sign == "!" && family = .postgresql then return
      else if sign == ":" then dataPath r
      else mismatch
    | _ => mismatch

/-- Takes the next operator, if it binds more tightly than a number says. A point is none. -/
def nextOperator (least : Nat) : Take Bool := do
  let strength ← nextStrength
  if strength ≤ least then return false
  if ← peekSign "." then return false
  operatorAndRest r strength
  return true

/-- An expression whose operators bind more tightly than a number says. -/
def expression (least : Nat) : Take Operand := do
  let operand ← r.operand
  let operand ← withParts r operand
  let isCollated ← if (← read).place = .column then pure false else keyword "COLLATE"
  if isCollated then objectName
  if ← nextOperator r least then
    repeatWhile (nextOperator r least)
    return .other
  else return if isCollated then .other else operand

end AnalyticsGateway.Sql.Grammar
