import AnalyticsGateway.Text.Printable

/-!
# Quoted text

A text between double quotes, in which quotes, backslashes and everything without a glyph of its own
are escaped, so that the quoted form is printable and no two texts share one.
-/

namespace AnalyticsGateway.Text

/-- The code point of a character in lower-case hexadecimal. -/
def hexCode (c : Char) : List Char := Nat.toDigits 16 c.toNat

def quoteChar (c : Char) : List Char :=
  match c with
  | '\x00' => ['\\', '0']
  | '\t' => ['\\', 't']
  | '\n' => ['\\', 'n']
  | '\r' => ['\\', 'r']
  | '"' => ['\\', '"']
  | '\\' => ['\\', '\\']
  | c =>
    if isPrintable c && !extendsGrapheme c then [c]
    else ['\\', 'u', '\x7b'] ++ hexCode c ++ ['\x7d']

def quoteChars (chars : List Char) : List Char :=
  '"' :: chars.flatMap quoteChar ++ ['"']

def quote (text : String) : String :=
  String.ofList (quoteChars text.toList)

end AnalyticsGateway.Text
