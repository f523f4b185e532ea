import AnalyticsGateway.Sql.Dialect

/-!
# Tokens of SQL text
-/

namespace AnalyticsGateway.Sql

/-- Dialects that are written by the same rules. -/
inductive Family where
  | postgresql | mysql | generic
deriving DecidableEq, Repr, Inhabited

def familyOf : Dialect → Family
  | .postgresql => .postgresql
  | .mysql | .doris => .mysql
  | .druid | .generic => .generic

/-- How a text is set off. -/
inductive TextForm where
  | single | double
  /-- Quotes with a letter in front. -/
  | marked (mark : String) (quote : Char)
  /-- Between dollar signs with a tag between them. -/
  | dollar (tag : String)
deriving DecidableEq, Repr, Inhabited

inductive Token where
  /-- A word without quotes, and the same in capitals. -/
  | word (text keyword : String)
  | quotedName (quote : Char) (name : String)
  | literal (form : TextForm) (value : String)
  | number (digits : String) (isLong : Bool)
  | placeholder (text : String)
  | sign (text : String)
  /-- An operator made up of signs. -/
  | madeUp (text : String)
  /-- A character that begins nothing. -/
  | stray (c : Char)
deriving DecidableEq, Repr, Inhabited

namespace Token

/-- A token as it is named in a message. -/
def shown : Token → String
  | word text _ => text
  | quotedName quote name => quote.toString ++ name ++ quote.toString
  | literal .single value => "'" ++ value ++ "'"
  | literal .double value => "\"" ++ value ++ "\""
  | literal (.marked mark quote) value => mark ++ quote.toString ++ value ++ quote.toString
  | literal (.dollar tag) value => "$" ++ tag ++ "$" ++ value ++ "$" ++ tag ++ "$"
  | number digits isLong => if isLong then digits ++ "L" else digits
  | placeholder text => text
  | sign text => text
  | madeUp text => text
  | stray c => c.toString

def isName : Token → Bool
  | word .. | quotedName .. => true
  | _ => false

/-- The word in capitals, if it is one without quotes. -/
def keyword? : Token → Option String
  | word _ keyword => some keyword
  | _ => none

end Token

/-- A token, and whether something that is skipped stands before it. -/
structure Lexeme where
  token : Token
  isApart : Bool
deriving DecidableEq, Repr, Inhabited

end AnalyticsGateway.Sql
