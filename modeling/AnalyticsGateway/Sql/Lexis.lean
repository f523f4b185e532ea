import AnalyticsGateway.Sql.Token
import AnalyticsGateway.Text.Alphabetic
import AnalyticsGateway.Text.Blank
import AnalyticsGateway.Text.Percent

/-!
# The lexical rules of SQL

How each family of dialects cuts a text into words, quoted names, texts, numbers and signs. Blanks
and comments are skipped.
-/

namespace AnalyticsGateway.Sql

/-! ## words -/

/-- The capitals of a character, as far as they are letters of ASCII. -/
def capitals (c : Char) : List Char :=
  match c with
  | 'ß' => ['S', 'S']
  | 'ı' => ['I']
  | 'ſ' => ['S']
  | 'ﬀ' => ['F', 'F']
  | 'ﬁ' => ['F', 'I']
  | 'ﬂ' => ['F', 'L']
  | 'ﬃ' => ['F', 'F', 'I']
  | 'ﬄ' => ['F', 'F', 'L']
  | 'ﬅ' | 'ﬆ' => ['S', 'T']
  | c => [c.toUpper]

def Token.ofWord (chars : List Char) : Token :=
  .word (String.ofList chars) (String.ofList (chars.flatMap capitals))

namespace Family

def startsWord (family : Family) (c : Char) : Bool :=
  Text.isAlphabetic c || c = '_' ||
    match family with
    | postgresql => 0x7F < c.toNat
    | mysql => 0x7F < c.toNat || c = '$' || c = '@'
    | generic => c = '#' || c = '@'

def continuesWord (family : Family) (c : Char) : Bool :=
  family.startsWord c || c.isDigit || c = '$'

def isNameQuote (family : Family) (c : Char) : Bool :=
  match family with
  | postgresql => c = '"'
  | mysql => c = '\x60'
  | generic => c = '"' || c = '\x60'

/-- Characters of which operators can be made up. -/
def isOperatorPart (family : Family) (c : Char) : Bool :=
  match family with
  | postgresql => "+-*/<>=~!@#%^&|\x60?".contains c
  | mysql | generic => false

end Family

namespace Lexis

/-- A token or a stretch that is skipped, and what follows it. -/
abbrev Cut := Option Token × List Char

def one (token : Token) (rest : List Char) : Option Cut := some (some token, rest)

def cutWord (family : Family) (start rest : List Char) : Cut :=
  let (more, rest) := rest.span family.continuesWord
  (some (.ofWord (start ++ more)), rest)

/-! ## quotes -/

/-- Reads up to the closing quote, of which two in a row stand for one. -/
def readName (quote : Char) (read : List Char) : List Char → Option (String × List Char)
  | [] => none
  | c :: rest =>
    if c ≠ quote then readName quote (c :: read) rest
    else match rest with
      | d :: rest' =>
        if d = quote then readName quote (quote :: read) rest'
        else some (String.ofList read.reverse, rest)
      | [] => some (String.ofList read.reverse, [])

/-- What a letter stands for behind a backslash. -/
def escaped : Char → Char
  | '0' => '\x00'
  | 'a' => '\x07'
  | 'b' => '\x08'
  | 'f' => '\x0c'
  | 'n' => '\n'
  | 'r' => '\r'
  | 't' => '\t'
  | 'Z' => '\x1a'
  | c => c

/-- Reads up to the closing quote, with escapes or without. The signs of a pattern can keep their
backslash. -/
def readText (hasEscapes keepsWildcards : Bool) (quote : Char) (read : List Char) :
    List Char → Option (String × List Char)
  | [] => none
  | c :: rest =>
    if c = quote then
      match rest with
      | d :: rest' =>
        if d = quote then readText hasEscapes keepsWildcards quote (quote :: read) rest'
        else some (String.ofList read.reverse, rest)
      | [] => some (String.ofList read.reverse, [])
    else if hasEscapes && c = '\\' then
      match rest with
      | d :: rest' =>
        let read := if keepsWildcards && (d = '%' || d = '_') then d :: c :: read
          else escaped d :: read
        readText hasEscapes keepsWildcards quote read rest'
      | [] => none
    else readText hasEscapes keepsWildcards quote (c :: read) rest

def cutText (form : TextForm) (hasEscapes keepsWildcards : Bool) (quote : Char)
    (rest : List Char) : Option Cut :=
  (readText hasEscapes keepsWildcards quote [] rest).map fun (value, rest) =>
    (some (.literal form value), rest)

/-- A character by its number in some base. -/
def charOf? (base : Nat) (digits : List Char) : Option Char := do
  guard (!digits.isEmpty)
  let code ← digits.foldlM (fun n c => do
    let digit ← Text.hexDigit? c
    guard (digit < base)
    return base * n + digit) 0
  guard code.isValidChar
  return Char.ofNat code

/-- A character of ASCII by the lowest eight bits of its number. -/
def byteOf? (base : Nat) (digits : List Char) : Option Char := do
  let code := digits.foldl (fun n c => base * n + (Text.hexDigit? c).getD 0) 0 % 256
  guard (0 < code ∧ code < 128)
  return Char.ofNat code

/-- Up to so many characters of a kind. -/
def upTo (most : Nat) (accepts : Char → Bool) (chars : List Char) : List Char :=
  (chars.take most).takeWhile accepts

def isHexDigit (c : Char) : Bool := (Text.hexDigit? c).isSome

def isOctalDigit (c : Char) : Bool := '0' ≤ c && c ≤ '7'

/-- The character that an escape stands for, and how much longer than one character it is. -/
def unescape? (c : Char) (rest : List Char) : Option (Char × Nat) :=
  match c with
  | 'b' => some ('\x08', 0)
  | 'f' => some ('\x0c', 0)
  | 'n' => some ('\n', 0)
  | 'r' => some ('\r', 0)
  | 't' => some ('\t', 0)
  | 'u' => do
    guard (4 ≤ rest.length)
    return (← charOf? 16 (rest.take 4), 4)
  | 'U' => do
    guard (8 ≤ rest.length)
    return (← charOf? 16 (rest.take 8), 8)
  | 'x' =>
    match upTo 2 isHexDigit rest with
    | [] => some ('x', 0)
    | digits => do return (← byteOf? 16 digits, digits.length)
  | c =>
    if isOctalDigit c then do
      let digits := upTo 2 isOctalDigit rest
      return (← byteOf? 8 (c :: digits), digits.length)
    else some (c, 0)

/-- Reads a text with escapes up to its closing quote; `skip` characters belong to the last escape.
The character with number zero cannot be written. -/
def readEscaped (read : List Char) (skip : Nat) : List Char → Option (String × List Char)
  | [] => none
  | c :: rest =>
    match skip with
    | skip + 1 => readEscaped read skip rest
    | 0 =>
      if c = '\x27' then
        match rest with
        | '\x27' :: rest' => readEscaped ('\x27' :: read) 0 rest'
        | _ => some (String.ofList read.reverse, rest)
      else if c = '\\' then
        match rest with
        | d :: rest' => do
          let (e, skip) ← unescape? d rest'
          guard (e ≠ '\x00')
          readEscaped (e :: read) skip rest'
        | [] => none
      else readEscaped (c :: read) 0 rest

/-- Reads a text with characters by number up to its closing quote. -/
def readUnicode (read : List Char) (skip : Nat) : List Char → Option (String × List Char)
  | [] => none
  | c :: rest =>
    match skip with
    | skip + 1 => readUnicode read skip rest
    | 0 =>
      if c = '\x27' then
        match rest with
        | '\x27' :: rest' => readUnicode ('\x27' :: read) 0 rest'
        | _ => some (String.ofList read.reverse, rest)
      else if c = '\\' then
        match rest with
        | '\\' :: rest' => readUnicode ('\\' :: read) 0 rest'
        | '+' :: rest' => do
          guard (6 ≤ rest'.length)
          readUnicode ((← charOf? 16 (rest'.take 6)) :: read) 6 rest'
        | rest => do
          guard (4 ≤ rest.length)
          readUnicode ((← charOf? 16 (rest.take 4)) :: read) 4 rest
      else readUnicode (c :: read) 0 rest

/-- What stands before and after a mark. -/
def cutAt (mark read : List Char) : List Char → Option (List Char × List Char)
  | [] => none
  | c :: rest =>
    if mark.isPrefixOf (c :: rest) then some (read.reverse, (c :: rest).drop mark.length)
    else cutAt mark (c :: read) rest

/-- What begins with a dollar sign: a text up to the next equal mark, or a placeholder. -/
def cutDollar (rest : List Char) : Option Cut :=
  let (tag, rest) := rest.span fun c => Text.isAlphanumeric c || c = '_'
  match rest with
  | '$' :: body =>
    (cutAt ('$' :: tag ++ ['$']) [] body).map fun (value, rest) =>
      (some (.literal (.dollar (String.ofList tag)) (String.ofList value)), rest)
  | rest => one (.placeholder (String.ofList ('$' :: tag))) rest

/-! ## comments -/

/-- Skips to the end of the comments that are open, after a character of the innermost one. -/
def skipComment (nested : Bool) (depth : Nat) (last : Char) : List Char → Option (List Char)
  | [] => none
  | c :: rest =>
    if last = '*' && c = '/' then
      if depth ≤ 1 then some rest else skipComment nested (depth - 1) ' ' rest
    else if nested && last = '/' && c = '*' then skipComment nested (depth + 1) ' ' rest
    else skipComment nested depth c rest

def skipLine (family : Family) (chars : List Char) : List Char :=
  chars.dropWhile fun c => c ≠ '\n' && !(family = .postgresql && c = '\r')

/-! ## numbers -/

/-- Digits, with single low lines between them where the dialect has them. -/
def readDigits (family : Family) (accepts : Char → Bool) : List Char → List Char × List Char
  | [] => ([], [])
  | c :: rest =>
    let parts := family = .postgresql && c = '_' && rest.head?.any isHexDigit
    if accepts c || parts then
      let (digits, rest) := readDigits family accepts rest
      (c :: digits, rest)
    else ([], c :: rest)

/-- An exponent with a digit at least, and whether one began at all. -/
def readExponent (chars : List Char) : List Char × List Char × Bool :=
  match chars with
  | mark :: rest =>
    if mark = 'e' || mark = 'E' then
      let (sign, after) := match rest with
        | '+' :: after => (['+'], after)
        | '-' :: after => (['-'], after)
        | after => ([], after)
      match after.span Char.isDigit with
      | ([], _) => ([], chars, true)
      | (digits, after) => (mark :: sign ++ digits, after, true)
    else ([], chars, false)
  | [] => ([], [], false)

/-- What begins with a digit or a point, after the token before it. A word may begin with digits in
some dialects. -/
def cutNumber (family : Family) (last : Option Token) (chars : List Char) : Option Cut :=
  let followsName := last.any Token.isName
  let (whole, rest) := readDigits family Char.isDigit chars
  match whole, rest with
  | [], '.' :: '_' :: after => if followsName then one (.sign ".") ('_' :: after) else none
  | ['0'], 'x' :: after =>
    let (digits, rest) := readDigits family isHexDigit after
    one (.literal (.marked "X" '\x27') (String.ofList digits)) rest
  | whole, rest =>
    let (point, rest) := match rest with
      | '.' :: rest => (['.'], rest)
      | rest => ([], rest)
    if family = .mysql && whole.isEmpty && followsName then one (.sign ".") rest
    else
      let (fraction, rest) := readDigits family Char.isDigit rest
      let digits := whole ++ point ++ fraction
      if digits = ['.'] then one (.sign ".") rest
      else
        let (exponent, rest, begun) := readExponent rest
        let digits := digits ++ exponent
        let (more, afterWord) := rest.span family.continuesWord
        if family = .mysql && !begun && !more.isEmpty then
          one (.ofWord (digits ++ more)) afterWord
        else if family = .mysql && begun && last = some (.sign ".") then one (.ofWord digits) rest
        else match rest with
          | 'L' :: rest => one (.number (String.ofList digits) true) rest
          | rest => one (.number (String.ofList digits) false) rest

/-! ## signs -/

/-- The sign unless it goes on to an operator that is made up. -/
def orMadeUp (family : Family) (sign : String) (rest : List Char) : Option Cut :=
  match rest.span family.isOperatorPart with
  | ([], _) => one (.sign sign) rest
  | (more, rest) => one (.madeUp (sign ++ String.ofList more)) rest

/-- Signs that can go on to an operator that is made up, the longest first. -/
def openSigns (family : Family) : List String :=
  ["->>", "#>>", "<=>", "||/", "~~*",
   "->", "||", "|/", "<=", "<>", "<<", "<@", ">=", ">>", "&&", "~*", "~~", "#-", "#>",
   "-", "%", "|", "<", ">", "&", "~", "#"] ++
    if family = .generic then ["|>"] else []

def geometricSigns : List String :=
  ["|&>", "|>>", "<<|", "<->", "<^", ">^", "&<", "~=", "##"]

/-- Signs that end where they do, the longest first. -/
def closedSigns (family : Family) : List String :=
  ["!~~*", "!~~", "!~*", "!~", "!=", "!!", "!", "=>", "==", "=", "::", ":=", ":", "^@", "^",
   "(", ")", ",", ";", "\\", "[", "]", "\x7b", "\x7d", "+", "*", "/", "@>", "@?", "@@", "@"] ++
    match family with
    | .postgresql => ["?||", "?|", "?&", "?-|", "?-", "?#", "?", "@-@", "&>", "&<|"]
    | .mysql => []
    | .generic => ["//"]

/-- The longest of some signs at the start of a text. -/
def longest? (signs : List String) (chars : List Char) : Option String :=
  (signs.filter fun sign => sign.toList.isPrefixOf chars).foldl
    (fun best sign => if best.any fun b => sign.length ≤ b.length then best else some sign) none

/-- Signs of geometry that are begun and not finished. -/
def isBroken (family : Family) (chars : List Char) : Bool :=
  let leads (start finish : String) :=
    start.toList.isPrefixOf chars && !(start ++ finish).toList.isPrefixOf chars &&
      !(chars.drop start.length).head?.any family.isOperatorPart
  family = .postgresql && (leads "<-" ">" || leads "|&" ">" || leads "|>" ">" || leads "@-" "@")

/-- A sign as messages name it. -/
def spelled : String → String
  | "!=" => "<>"
  | sign => sign

def cutSign (family : Family) (chars : List Char) : Option Cut :=
  let opened := openSigns family ++ if family = .postgresql then geometricSigns else []
  let closed := closedSigns family
  if isBroken family chars then none
  else match longest? (opened ++ closed) chars, chars with
    | some sign, _ =>
      let rest := chars.drop sign.length
      if closed.contains sign then one (.sign (spelled sign)) rest
      else orMadeUp family sign rest
    | none, c :: rest => one (.stray c) rest
    | none, [] => none

/-! ## tokens -/

/-- A text with a letter in front, if this is one. -/
def cutMarked? (family : Family) (c : Char) (rest : List Char) : Option (Option Cut) :=
  let escapes := family = .mysql
  match c.toUpper, rest with
  | 'N', '\x27' :: rest => some (cutText (.marked "N" '\x27') escapes escapes '\x27' rest)
  | 'X', '\x27' :: rest => some (cutText (.marked "X" '\x27') true escapes '\x27' rest)
  | 'B', '\x27' :: rest => some (cutText (.marked "B" '\x27') false escapes '\x27' rest)
  | 'B', '"' :: rest => some (cutText (.marked "B" '"') false escapes '"' rest)
  | 'R', '\x27' :: rest =>
    if family = .generic then some (cutText (.marked "R" '\x27') false false '\x27' rest) else none
  | 'R', '"' :: rest =>
    if family = .generic then some (cutText (.marked "R" '"') false false '"' rest) else none
  | 'E', '\x27' :: rest =>
    if family = .mysql then none
    else some ((readEscaped [] 0 rest).map fun (value, rest) =>
      (some (.literal (.marked "E" '\x27') value), rest))
  | 'U', '&' :: '\x27' :: rest =>
    if family = .mysql then none
    else some ((readUnicode [] 0 rest).map fun (value, rest) =>
      (some (.literal (.marked "U&" '\x27') value), rest))
  | _, _ => none

/-- Whether a comment to the end of the line begins. -/
def startsLineComment (family : Family) (c : Char) (rest : List Char) : Bool :=
  match c, rest with
  | '-', '-' :: after => family ≠ .mysql || after.head?.any Text.isBlank
  | '#', _ => family = .mysql
  | _, _ => false

/-- Whether a sign that may begin a word does so. -/
def isWordMark (family : Family) (c : Char) (rest : List Char) : Bool :=
  family.startsWord c &&
    match c, rest with
    | '#', d :: _ => d ∉ [' ', '-', '>']
    | '@', d :: _ => d ∉ [' ', '>', '?', '\x27', '"', '\x60', '@']
    | '#', [] | '@', [] => false
    | _, _ => true

/-- A word behind two signs, if this is one. -/
def cutDoubleMark? (family : Family) (c : Char) (rest : List Char) : Option Cut :=
  match c, rest with
  | '@', '@' :: d :: rest =>
    if family ≠ .postgresql && d ≠ ' ' then some (cutWord family ['@', '@', d] rest) else none
  | _, _ => none

/-- What begins with a character, after the token before it. -/
def next? (family : Family) (last : Option Token) (c : Char) (rest : List Char) : Option Cut :=
  let isBlankAscii := c = ' ' || c = '\t' || c = '\n' || c = '\r'
  if isBlankAscii then some (none, rest)
  else if let some cut := cutMarked? family c rest then cut
  else if c = '\x27' then
    cutText .single (family = .mysql) (family = .mysql) c rest
  else if family.isNameQuote c then
    (readName c [] rest).map fun (name, rest) => (some (.quotedName c name), rest)
  else if c = '"' then cutText .double true true c rest
  else if c.isDigit || c = '.' then cutNumber family last (c :: rest)
  else if startsLineComment family c rest then some (none, skipLine family rest)
  else if c = '/' && rest.head? == some '*' then
    (skipComment (family ≠ .mysql) 1 ' ' (rest.drop 1)).map fun rest => (none, rest)
  else if let some cut := cutDoubleMark? family c rest then some cut
  else if c = '#' || c = '@' then
    if isWordMark family c rest then some (cutWord family (c :: rest.take 1) (rest.drop 1))
    else cutSign family (c :: rest)
  else if c = '?' && family ≠ .postgresql then
    let (digits, rest) := rest.span Char.isDigit
    one (.placeholder (String.ofList (c :: digits))) rest
  else if family.startsWord c then some (cutWord family [c] rest)
  else if c = '$' then cutDollar rest
  else if Text.isBlank c then some (none, rest)
  else cutSign family (c :: rest)

/-- The tokens read so far, the last one first, and whether something was skipped since. -/
structure Scan where
  read : List Lexeme := []
  isApart : Bool := false

def Scan.last? (s : Scan) : Option Token :=
  if s.isApart then none else s.read.head?.map (·.token)

def Scan.add (s : Scan) : Option Token → Scan
  | some token => ⟨⟨token, s.isApart⟩ :: s.read, false⟩
  | none => { s with isApart := true }

/-- Reads a text in at most `bound` steps. -/
def scan? (family : Family) (bound : Nat) (s : Scan) (chars : List Char) : Option Scan :=
  match bound, chars with
  | _, [] => some s
  | 0, _ => none
  | bound + 1, c :: rest => do
    let (token, rest) ← next? family s.last? c rest
    scan? family bound (s.add token) rest

/-- The text of a comment that one family reads as SQL: behind an exclamation mark and the number of
a version. -/
def hint? (family : Family) (chars : List Char) : Option (List Char × List Char) :=
  match family, chars with
  | .mysql, '/' :: '*' :: '!' :: rest => do
    let after ← skipComment false 1 ' ' ('!' :: rest)
    let text := rest.take (rest.length - after.length - 2)
    return ((text.dropWhile (· = '!')).dropWhile Char.isDigit, after)
  | _, _ => none

/-- Reads a text and the comments in it that are read as SQL. -/
def scanAll? (family : Family) (bound : Nat) (s : Scan) (chars : List Char) : Option Scan :=
  match bound, chars with
  | _, [] => some s
  | 0, _ => none
  | bound + 1, c :: rest =>
    match hint? family (c :: rest) with
    | some (text, rest) => do
      let s ← scan? family (text.length + 1) s text
      scanAll? family bound s rest
    | none => do
      let (token, rest) ← next? family s.last? c rest
      scanAll? family bound (s.add token) rest

end Lexis

/-- The tokens of a text; none where a quote or a comment is not closed. -/
def lexemes? (family : Family) (sql : String) : Option (List Lexeme) :=
  let chars := sql.toList
  (Lexis.scanAll? family (chars.length + 1) {} chars).map fun s => s.read.reverse

end AnalyticsGateway.Sql
