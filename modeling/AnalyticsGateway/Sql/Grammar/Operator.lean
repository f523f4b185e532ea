import AnalyticsGateway.Sql.Grammar.Basic

/-!
# Operators

Which operators there are between operands, and how tightly they bind.
-/

namespace AnalyticsGateway.Sql.Grammar

inductive Binding where
  | part | cast | bracket | collation | zone | product | sum | exclusion | ampersand | caret | pipe
  | colon | range | comparison | likeness | test | special | negation | conjunction | disjunction
deriving DecidableEq, Repr, Inhabited

namespace Binding

/-- How tightly an operator binds; greater numbers bind more tightly. -/
def strength (family : Family) (binding : Binding) : Nat :=
  match family with
  | .postgresql =>
    match binding with
    | part => 200
    | cast => 140
    | bracket => 130
    | collation => 120
    | zone => 110
    | caret => 100
    | product => 90
    | sum => 80
    | exclusion => 75
    | ampersand | pipe | colon | special => 70
    | range | likeness => 60
    | comparison => 50
    | test => 40
    | negation => 30
    | conjunction => 20
    | disjunction => 10
  | .mysql | .generic =>
    match binding with
    | part => 100
    | cast | bracket | collation => 50
    | zone => 41
    | product => 40
    | sum => 30
    | exclusion => 24
    | ampersand => 23
    | caret => 22
    | pipe | colon => 21
    | range | comparison => 20
    | likeness => 19
    | test => 17
    | special => 16
    | negation => 15
    | conjunction => 10
    | disjunction => 5

end Binding

/-! ## signs -/

def comparisonSigns : List String :=
  [":=", "=", "<", "<=", "<>", ">", ">=", "==", "~", "~*", "!~", "!~*", "~~", "~~*", "!~~", "!~~*",
   "<=>"]

def geometricSigns : List String :=
  ["?-", "##", "&<", "&>", "?-|", "&<|", "|&>", "<->", "<^", ">^", "?#", "?||", "~=", "|>>", "<<|"]

def specialSigns : List String :=
  ["->", "->>", "#>", "#>>", "@>", "<@", "#-", "@?", "@@", "?", "?&", "?|"]

/-- How tightly a sign binds that stands between operands. -/
def signBinding? (family : Family) (sign : String) : Option Binding :=
  let isSpecial := specialSigns.contains sign ||
    (family = .postgresql && ["!", "&&", "^@", "||", "#", "<<", ">>"].contains sign)
  if isSpecial then some .special
  else if comparisonSigns.contains sign then some .comparison
  else if geometricSigns.contains sign then some .pipe
  else match sign with
    | "." => some .part
    | "|" | "&&" => some .pipe
    | "^" | "#" | ">>" | "<<" => some .caret
    | "&" => some .ampersand
    | "+" | "-" => some .sum
    | "*" | "/" | "//" | "%" | "||" => some .product
    | "[" => some (if family = .postgresql then .bracket else .cast)
    | "::" | "!" | "^@" => some .cast
    | _ => none

/-- Whether a sign stands between two operands. -/
def isBinarySign (family : Family) (sign : String) : Bool :=
  comparisonSigns.contains sign || specialSigns.contains sign ||
    ["+", "-", "*", "/", "//", "%", "||", "|", "^", "&", "<<", ">>"].contains sign ||
    match family with
    | .postgresql => geometricSigns.contains sign || ["#", "&&", "^@"].contains sign
    | .mysql => sign == "&&"
    | .generic => sign == "^@"

/-- Whether a sign compares an operand with any or all of some others. -/
def comparesMany (sign : String) : Bool :=
  comparisonSigns.contains sign && sign != ":=" && sign != "<=>"

/-! ## words -/

/-- How tightly a word binds that stands between operands, before the words after it. -/
def wordBinding? (context : Context) (keyword : String) (second third : Option String) :
    Option Binding :=
  let isColumn := context.place = .column
  match keyword with
  | "OR" => some .disjunction
  | "AND" => some .conjunction
  | "XOR" => some .exclusion
  | "AT" => if second = some "TIME" && third = some "ZONE" then some .zone else none
  | "NOT" =>
    match second with
    | some "IN" | some "BETWEEN" => some .range
    | some "LIKE" | some "ILIKE" | some "RLIKE" | some "REGEXP" | some "MATCH" | some "SIMILAR"
    | some "MEMBER" => some .likeness
    | some "NULL" => if isColumn then none else some .test
    | _ => none
  | "NOTNULL" => if context.family = .postgresql then some .test else none
  | "IS" => some .test
  | "IN" | "BETWEEN" | "OVERLAPS" | "OPERATOR" => some .range
  | "LIKE" | "ILIKE" | "RLIKE" | "REGEXP" | "MATCH" | "SIMILAR" | "MEMBER" => some .likeness
  | "DIV" => some .product
  | "COLLATE" => if context.family = .postgresql && !isColumn then some .collation else none
  | _ => none

/-- How tightly the operator binds that some tokens begin with. A colon before a value belongs to a
list of pairs. -/
def binding? (context : Context) (tokens : List Lexeme) : Option Binding :=
  match (tokens.take 3).map Lexeme.token with
  | .word _ keyword :: rest =>
    wordBinding? context keyword (rest.head?.bind Token.keyword?) (rest[1]?.bind Token.keyword?)
  | .sign ":" :: rest =>
    match context.family, rest with
    | .postgresql, _ | _, .literal .single _ :: _ | _, .number .. :: _ => none
    | _, _ => some .colon
  | .sign sign :: _ => signBinding? context.family sign
  | .madeUp _ :: _ => some .special
  | _ => none

/-- How tightly the next operator binds; none binds as little as the end. -/
def nextStrength : Take Nat := do
  let context ← read
  return ((binding? context (← get)).map (·.strength context.family)).getD 0

end AnalyticsGateway.Sql.Grammar
