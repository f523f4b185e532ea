import AnalyticsGateway.Sql.Grammar.Basic

/-!
# Rules of the grammar

The parts of the grammar that contain themselves. Each part is written in terms of these rules, and
the rules are tied together once all parts are known. Blocks are made up of other statements, some
of which are left out or repeated.
-/

namespace AnalyticsGateway.Sql.Grammar

/-- What an expression turned out to be, as far as it says what may follow it. -/
inductive Operand where
  | name (token : Token)
  /-- Names with points between them. -/
  | path
  /-- A value, a call, or a part of something. -/
  | term
  | other
deriving DecidableEq, Repr, Inhabited

/-- What a type of data turned out to be. -/
inductive TypeForm where
  | interval
  | binary
  /-- Not one of the language. -/
  | custom
  | other
deriving DecidableEq, Repr, Inhabited

/-- A query is plain if it is one select, without set operators or parentheses around it. -/
structure QueryForm where
  isPlain : Bool
  isLimited : Bool
deriving DecidableEq, Repr, Inhabited

/-- A table or what stands for one. -/
structure TableForm where
  /-- Joined tables in parentheses. -/
  isNested : Bool := false
  isRenamed : Bool := false
deriving DecidableEq, Repr, Inhabited

inductive StatementForm where
  | query (form : QueryForm)
  | explanation
  | command
deriving DecidableEq, Repr, Inhabited

structure Rules where
  /-- An expression whose operators bind more tightly than a number says. -/
  expression : Nat → Take Operand
  /-- An expression without operators behind it. -/
  operand : Take Operand
  /-- A type, and whether it took the angle bracket that closes the type around it. -/
  type : Take (TypeForm × Bool)
  query : Take QueryForm
  /-- Selects between set operators that bind more tightly than a number says, and whether it is
  just one. -/
  selects : Nat → Take Bool
  /-- A table and what it is joined with, and whether it is joined at all. -/
  joinedTable : Take (TableForm × Bool)
  statement : Take StatementForm
deriving Inhabited

namespace Rules

variable (r : Rules)

/-- Any expression. -/
def any : Take Unit := discard (r.expression 0)

/-- A query within something else. -/
def subquery : Take Unit := discard r.query

/-- A type that stands alone. -/
def soleType : Take TypeForm := do
  let (form, closesOuter) ← r.type
  if closesOuter then mismatch
  return form

end Rules

/-! ## blocks -/

open Take

variable (r : Rules)

/-- Statements with a semicolon behind each, up to one of some words. -/
def statementsUntil (words : List String) : Take Unit := repeatWhile do
  if (← peek).isNone || (← peekOneOf words) then return false
  discard r.statement
  expectSign ";"
  return true

/-- The statements of a block, which may be set off by words of their own. -/
def block (words : List String) : Take Unit := do
  if ← keyword "BEGIN" then
    statementsUntil r words
    expectKeyword "END"
  else statementsUntil r words

/-- A condition, and what is done where it holds. -/
def branch (words : List String) : Take Unit := do
  r.any
  expectKeyword "THEN"
  block r words

/-- A choice by conditions, behind `IF`. -/
def choice : Take Unit := do
  let words := ["ELSEIF", "ELSE", "END"]
  branch r words
  repeatWhile do
    if ← keyword "ELSEIF" then
      branch r words
      return true
    else return false
  afterKeyword "ELSE" (block r ["END"])
  expectKeywords ["END", "IF"]

/-- A choice by values, behind `CASE`. -/
def selection : Take Unit := do
  if !(← peekKeyword "WHEN") then r.any
  expectKeyword "WHEN"
  repeatWhile do
    branch r ["WHEN", "ELSE", "END"]
    keyword "WHEN"
  afterKeyword "ELSE" (block r ["END"])
  expectKeyword "END"
  discard (keyword "CASE")

/-- What is done as long as a condition holds, behind `WHILE`. -/
def loop : Take Unit := do
  r.any
  block r ["END"]

end AnalyticsGateway.Sql.Grammar
