import AnalyticsGateway.Sql.Token

/-!
# Taking tokens

A part of the grammar takes what it describes from the front of some tokens and leaves the rest. It
fails where the tokens are not of its kind, or where they are nested too deeply; only a mismatch
lets another part of the grammar be tried at the same place.
-/

namespace AnalyticsGateway.Sql.Grammar

inductive Failure where
  | mismatch
  | tooDeep
deriving DecidableEq, Repr, Inhabited

/-- Where in a statement an expression stands, as far as it changes what may follow it. -/
inductive Place where
  | plain
  /-- Among the constraints of a column. -/
  | column
  /-- Where the rows of a hierarchy are connected. -/
  | hierarchy
deriving DecidableEq, Repr, Inhabited

structure Context where
  family : Family
  place : Place := .plain
  /-- How many more expressions, queries and statements may be nested. -/
  depth : Nat := 50

abbrev Take := ReaderT Context (StateT (List Lexeme) (Except Failure))

def mismatch {α : Type} : Take α := throw .mismatch

def tooDeep {α : Type} : Take α := throw .tooDeep

namespace Take

variable {α : Type}

/-- What a part takes, one level deeper. -/
def deeper (part : Take α) : Take α := fun context tokens =>
  match context.depth with
  | 0 => .error .tooDeep
  | depth + 1 => part { context with depth } tokens

/-- What a part takes, or nothing where it does not match. -/
def attempt (part : Take α) : Take (Option α) := fun context tokens =>
  match part context tokens with
  | .ok (value, rest) => .ok (some value, rest)
  | .error .mismatch => .ok (none, tokens)
  | .error .tooDeep => .error .tooDeep

/-- What a part takes, in another place. -/
def within (place : Place) (part : Take α) : Take α := fun context tokens =>
  part { context with place } tokens

/-- What a part takes; where it fails in any way, what the other one takes, and where that fails
too, the first failure. -/
def orElseKeeping (part other : Take α) : Take α := fun context tokens =>
  match part context tokens with
  | .ok result => .ok result
  | .error failure =>
    match other context tokens with
    | .ok result => .ok result
    | .error _ => .error failure

/-- Whether the dialect is of one of the families. -/
def among (families : List Family) : Take Bool := return families.contains (← read).family

/-! ## tokens -/

def peek : Take (Option Token) := return (← get).head?.map (·.token)

/-- The token at some distance. -/
def peekAt (n : Nat) : Take (Option Token) := return (← get)[n]?.map (·.token)

def next : Take Token := do
  match ← get with
  | lexeme :: rest => set rest; return lexeme.token
  | [] => mismatch

/-- Leaves out a token, if there is one. -/
def skip : Take Unit := modify (·.drop 1)

def takeIf (accepts : Token → Bool) : Take Bool := do
  if (← peek).any accepts then
    skip
    return true
  else return false

def expect (accepts : Token → Bool) : Take Unit := do
  if !(← takeIf accepts) then mismatch

/-! ## signs and words -/

def isSign (text : String) (token : Token) : Bool := token == .sign text

def isKeyword (keyword : String) (token : Token) : Bool := token.keyword? == some keyword

def sign (text : String) : Take Bool := takeIf (isSign text)

def expectSign (text : String) : Take Unit := expect (isSign text)

def peekSign (text : String) : Take Bool := return (← peek).any (isSign text)

def keyword (text : String) : Take Bool := takeIf (isKeyword text)

def expectKeyword (text : String) : Take Unit := expect (isKeyword text)

def peekKeyword (text : String) : Take Bool := return (← peek).any (isKeyword text)

def startsWith (texts : List String) (tokens : List Lexeme) : Bool :=
  texts.map some == (tokens.take texts.length).map fun lexeme => lexeme.token.keyword?

/-- Takes some words in a row, or none of them. -/
def keywords (texts : List String) : Take Bool := do
  if startsWith texts (← get) then
    modify (·.drop texts.length)
    return true
  else return false

def expectKeywords (texts : List String) : Take Unit := texts.forM expectKeyword

/-- Takes one of some words. -/
def oneOf (texts : List String) : Take (Option String) := do
  match (← peek).bind Token.keyword? with
  | some text =>
    if texts.contains text then
      skip
      return some text
    else return none
  | none => return none

def expectOneOf (texts : List String) : Take String := do
  match ← oneOf texts with
  | some text => return text
  | none => mismatch

def peekOneOf (texts : List String) : Take Bool :=
  return ((← peek).bind Token.keyword?).any texts.contains

/-! ## repetition -/

/-- Repeats a part as long as it says so, at most so often. -/
def repeatWithin : Nat → Take Bool → Take Unit
  | 0, _ => tooDeep
  | bound + 1, part => do if ← part then repeatWithin bound part

/-- Repeats a part as long as it says so; it takes a token whenever it does. -/
def repeatWhile (part : Take Bool) : Take Unit := do repeatWithin ((← get).length + 1) part

/-- One or more, with a sign between them. -/
def listBy (separator : String) (item : Take Unit) : Take Unit :=
  repeatWhile do
    item
    sign separator

def commaList (item : Take Unit) : Take Unit := listBy "," item

/-- None or more with commas between them, up to a sign. -/
def commaListUntil (closing : String) (item : Take Unit) : Take Unit := do
  if !(← peekSign closing) then commaList item
  expectSign closing

def parenthesized (content : Take α) : Take α := do
  expectSign "("
  let value ← content
  expectSign ")"
  return value

/-- A part, if a word stands before it. -/
def afterKeyword (text : String) (part : Take Unit) : Take Unit := do
  if ← keyword text then part

/-- A part, if some words stand before it. -/
def afterKeywords (texts : List String) (part : Take Unit) : Take Unit := do
  if ← keywords texts then part

end Take

end AnalyticsGateway.Sql.Grammar
