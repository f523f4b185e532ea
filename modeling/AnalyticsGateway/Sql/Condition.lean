import AnalyticsGateway.Sql.Term

/-!
# Conditions

A condition tests terms against constants, joins such tests by and, or and not, and may hold the
guard that keeps a query within one tenant's rows.
-/

namespace AnalyticsGateway.Sql

inductive Literal where
  | boolean (value : Bool)
  | integer (value : Int)
  | float (value : Float)
  | text (value : String)
deriving Inhabited

inductive Comparison where
  | equal | notEqual | greater | greaterEqual | less | lessEqual
deriving DecidableEq, Repr, Inhabited

/-- A test of a term. -/
inductive Test where
  | compare (comparison : Comparison) (value : Literal)
  | among (values : List Literal) (negated : Bool)
  | between (low high : Literal)
  | like (pattern : String) (negated : Bool)
  | isNull (negated : Bool)
deriving Inhabited

inductive Connective where
  | and | or
deriving DecidableEq, Repr, Inhabited

def Connective.word : Connective → String
  | and => "and"
  | or => "or"

inductive Condition where
  | test (term : Term) (test : Test)
  | guard (column : Column) (tenant : String)
  | not (condition : Condition)
  | group (connective : Connective) (parts : List Condition)
deriving Inhabited

/-! ## equality

Machine numbers are equal as numbers: the two zeros are. -/

def Literal.same : Literal → Literal → Bool
  | boolean a, boolean b => a == b
  | integer a, integer b => a == b
  | float a, float b => a == b
  | text a, text b => a == b
  | _, _ => false

def Literal.sameAll : List Literal → List Literal → Bool
  | [], [] => true
  | a :: as, b :: bs => a.same b && sameAll as bs
  | _, _ => false

def Test.same : Test → Test → Bool
  | compare c a, compare d b => c == d && a.same b
  | among as m, among bs n => Literal.sameAll as bs && m == n
  | between a b, between c d => a.same c && b.same d
  | like p m, like q n => p == q && m == n
  | isNull m, isNull n => m == n
  | _, _ => false

mutual

def Condition.same : Condition → Condition → Bool
  | .test t a, .test u b => t == u && a.same b
  | .guard c t, .guard d u => c == d && t == u
  | .not a, .not b => a.same b
  | .group c as, .group d bs => c == d && Condition.sameAll as bs
  | _, _ => false

def Condition.sameAll : List Condition → List Condition → Bool
  | [], [] => true
  | a :: as, b :: bs => a.same b && Condition.sameAll as bs
  | _, _ => false

end

namespace Condition

/-! ## what a condition mentions -/

mutual

/-- The terms that are tested. -/
def terms : Condition → List Term
  | .test t _ => [t]
  | .guard .. => []
  | .not c => c.terms
  | .group _ parts => termsAll parts

def termsAll : List Condition → List Term
  | [] => []
  | c :: rest => c.terms ++ termsAll rest

end

mutual

/-- The tenants of the guards, in reading order. -/
def guards : Condition → List String
  | .test .. => []
  | .guard _ tenant => [tenant]
  | .not c => c.guards
  | .group _ parts => guardsAll parts

def guardsAll : List Condition → List String
  | [] => []
  | c :: rest => c.guards ++ guardsAll rest

end

/-- The tenant of the first guard. -/
def guardedFor? (c : Condition) : Option String := c.guards.head?

/-- The parts of a group of this connective; any other condition is its own only part. -/
def partsOf (connective : Connective) : Condition → List Condition
  | .group c parts => if c = connective then parts else [.group c parts]
  | c => [c]

end Condition

end AnalyticsGateway.Sql
