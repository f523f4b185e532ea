import AnalyticsGateway.Sql.Dialect
import AnalyticsGateway.Text.Split

/-!
# Pieces of SQL text

SQL is written as a list of pieces: fixed words and signs, names, texts, numbers, and fragments that
the catalog's author wrote. A dialect decides how names and texts are quoted.
-/

namespace AnalyticsGateway.Sql

inductive Piece where
  /-- Key words, signs and the blanks between them. -/
  | fixed (text : String)
  | name (name : String)
  | text (value : String)
  | number (text : String)
  | fragment (sql : String)
deriving DecidableEq, Repr

/-- Doubles every occurrence of a character. -/
def doubled (mark : Char) (chars : List Char) : List Char :=
  chars.flatMap fun c => if c = mark then [mark, mark] else [c]

/-- A plain name as it is, any other between quotes, where a quote is written twice. -/
def writeName (dialect : Dialect) (name : String) : List Char :=
  if Dialect.isPlainName name then name.toList
  else
    let quote := dialect.nameQuote
    quote :: doubled quote name.toList ++ [quote]

/-- A text between single quotes, where a quote is written twice, as is a backslash in dialects with
backslash escapes. -/
def writeText (dialect : Dialect) (value : String) : List Char :=
  let chars := value.toList
  let escaped := if dialect.hasBackslashEscapes then doubled '\\' chars else chars
  '\'' :: doubled '\'' escaped ++ ['\'']

def Piece.write (dialect : Dialect) : Piece → List Char
  | fixed sql | number sql | fragment sql => sql.toList
  | name n => writeName dialect n
  | text value => writeText dialect value

/-- The text of some pieces. -/
def writePieces (dialect : Dialect) (pieces : List Piece) : String :=
  String.ofList (pieces.flatMap (Piece.write dialect))

/-- Puts a separator between lists of pieces. -/
def separated (separator : String) : List (List Piece) → List Piece
  | [] => []
  | [pieces] => pieces
  | pieces :: rest => pieces ++ .fixed separator :: separated separator rest

/-- A name of parts, each of which is written as a name. -/
def objectName (name : String) : List Piece :=
  separated "." ((Text.splitAll '.' name).map fun part => [.name part])

end AnalyticsGateway.Sql
