import AnalyticsGateway.Decimal.Value
import AnalyticsGateway.Json.Basic
import AnalyticsGateway.Text.Percent

/-!
# Tokens of JSON text

A text is cut into brackets, texts, numbers and words, each with its place. Whether a text stands
for characters and a number for a machine number matters only where it is used, so a token may hold
a flaw instead of a value.
-/

namespace AnalyticsGateway.Json

/-! ## places -/

/-- A place in a text: its line, and the bytes of the line up to it. -/
structure Position where
  line : Nat := 1
  column : Nat := 0
deriving DecidableEq, Repr, Inhabited

namespace Position

def next (p : Position) (c : Char) : Position :=
  if c = '\n' then ⟨p.line + 1, 0⟩ else ⟨p.line, p.column + c.utf8Size⟩

/-- The place behind some characters. -/
def after (p : Position) (chars : List Char) : Position := chars.foldl next p

/-- The place one byte further, if the text goes on. -/
def past (p : Position) (rest : List Char) : Position :=
  if rest.isEmpty then p else ⟨p.line, p.column + 1⟩

def text (p : Position) : String := s!"line {p.line} column {p.column}"

end Position

/-- What is wrong with a text, and where that shows. -/
structure Flaw where
  reason : String
  position : Position
deriving DecidableEq, Repr, Inhabited

/-- Where scanning stops: the reason, and the characters that were not looked at. -/
structure Stop where
  reason : String
  rest : List Char
  /-- Whether the next character was looked at. -/
  looksAhead : Bool := false

/-- The flaw of a stop within characters that begin at a place. -/
def Stop.flaw (stop : Stop) (start : Position) (chars : List Char) : Flaw :=
  let p := start.after (chars.take (chars.length - stop.rest.length))
  ⟨stop.reason, if stop.looksAhead then p.past stop.rest else p⟩

/-! ## numbers -/

namespace Numeral

def unfinished : Stop := ⟨"EOF while parsing a value", [], false⟩

def invalid (rest : List Char) (looksAhead : Bool) : Stop := ⟨"invalid number", rest, looksAhead⟩

/-- The digits before the point; a zero stands alone. -/
def whole : List Char → Except Stop (List Char × List Char)
  | [] => .error unfinished
  | '0' :: rest =>
    match rest with
    | c :: _ => if c.isDigit then .error (invalid rest true) else .ok (['0'], rest)
    | [] => .ok (['0'], [])
  | c :: rest =>
    if c.isDigit then .ok ((c :: rest).span Char.isDigit) else .error (invalid rest false)

/-- The digits after the point, if there is one. -/
def fraction : List Char → Except Stop (List Char × List Char)
  | '.' :: rest =>
    match rest.span Char.isDigit with
    | ([], []) => .error unfinished
    | ([], rest) => .error (invalid rest true)
    | cut => .ok cut
  | rest => .ok ([], rest)

def sign : List Char → Bool × List Char
  | '-' :: rest => (true, rest)
  | '+' :: rest => (false, rest)
  | rest => (false, rest)

/-- The power of ten, if one is written. -/
def power (chars : List Char) : Except Stop (Option Int × List Char) :=
  match chars with
  | mark :: rest =>
    if mark = 'e' || mark = 'E' then
      let (negative, rest) := sign rest
      match rest, rest.span Char.isDigit with
      | [], _ => .error unfinished
      | _ :: rest, ([], _) => .error (invalid rest false)
      | _, (digits, rest) =>
        let power : Int := Decimal.ofDigits 0 digits
        .ok (some (if negative then -power else power), rest)
    else .ok (none, chars)
  | [] => .ok (none, [])

/-- The value of a number. A whole number that has 64 bits stays one, a minus zero excepted; every
other number becomes a machine number, and must not be too large. -/
def value? (negative : Bool) (whole fraction : List Char) (power : Option Int) : Option Json := do
  let digits := Decimal.ofDigits 0 (whole ++ fraction)
  let integer : Int := if negative then -digits else digits
  let staysWhole := fraction.isEmpty && power.isNone && !(negative && digits = 0)
  if staysWhole && -wordSize 63 ≤ integer && integer < wordSize 64 then return .integer integer
  let leading := Decimal.leading whole fraction
  let value ← Decimal.scaled? { leading with exponent := leading.exponent + power.getD 0 }
  return .float (if negative then -value else value)

/-- A number at the front and the rest. -/
def scan (chars : List Char) : Except Stop (Option Json × List Char) := do
  let (negative, rest) := match chars with
    | '-' :: rest => (true, rest)
    | rest => (false, rest)
  let (whole, rest) ← whole rest
  let (fraction, rest) ← fraction rest
  let (power, rest) ← power rest
  return (value? negative whole fraction power, rest)

end Numeral

/-! ## texts -/

def simpleEscape? : Char → Option Char
  | '"' => some '"'
  | '\\' => some '\\'
  | '/' => some '/'
  | 'b' => some '\x08'
  | 'f' => some '\x0c'
  | 'n' => some '\n'
  | 'r' => some '\r'
  | 't' => some '\t'
  | _ => none

/-- Where a text is read: outside an escape, after its backslash, or within the digits of a unit of
16 bits. -/
inductive TextState where
  | plain
  | escape
  | unit (missing : Nat) (value : Nat)

/-- What has been read of a text: its characters, the last first, half a pair that waits for the
other half, and the first half pair without the other half. -/
structure TextProgress where
  chars : List Char := []
  high : Option Nat := none
  stop : Option Stop := none

namespace TextProgress

def add (p : TextProgress) (c : Char) : TextProgress := { p with chars := c :: p.chars }

/-- Half a pair is not followed by an escape. -/
def endPair (p : TextProgress) (rest : List Char) : TextProgress :=
  match p.high with
  | none => p
  | some _ =>
    { p with high := none, stop := p.stop.or (some ⟨"unexpected end of hex escape", rest, false⟩) }

def isHigh (unit : Nat) : Bool := 0xD800 ≤ unit && unit ≤ 0xDBFF

def isLow (unit : Nat) : Bool := 0xDC00 ≤ unit && unit ≤ 0xDFFF

/-- Takes a unit; two halves of a pair make one character. -/
def addUnit (p : TextProgress) (unit : Nat) (rest : List Char) : TextProgress :=
  let lone : Stop := ⟨"lone leading surrogate in hex escape", rest, false⟩
  match p.high with
  | some high =>
    if isLow unit then
      let c := Char.ofNat (0x10000 + (high - 0xD800) * 0x400 + (unit - 0xDC00))
      { p.add c with high := none }
    else { p with high := none, stop := p.stop.or (some lone) }
  | none =>
    if isHigh unit then { p with high := some unit }
    else if isLow unit then { p with stop := p.stop.or (some lone) }
    else p.add (Char.ofNat unit)

def value (p : TextProgress) : Except Stop String :=
  match p.stop with
  | none => .ok (String.ofList p.chars.reverse)
  | some stop => .error stop

end TextProgress

/-- Reads up to the closing quote. -/
def scanText (state : TextState) (read : TextProgress) :
    List Char → Except Stop (Except Stop String × List Char)
  | [] => .error ⟨"EOF while parsing a string", [], false⟩
  | c :: rest =>
    match state with
    | .plain =>
      let whole := read.endPair rest
      if c = '"' then .ok (whole.value, rest)
      else if c = '\\' then scanText .escape read rest
      else if c.toNat < 0x20 then
        .error ⟨"control character (\\u0000-\\u001F) found while parsing a string", rest, false⟩
      else scanText .plain (whole.add c) rest
    | .escape =>
      if c = 'u' then scanText (.unit 4 0) read rest
      else match simpleEscape? c with
        | some escaped => scanText .plain ((read.endPair rest).add escaped) rest
        | none => .error ⟨"invalid escape", rest, false⟩
    | .unit missing value =>
      match Text.hexDigit? c with
      | none => .error ⟨"invalid escape", rest.drop (missing - 1), false⟩
      | some digit =>
        let value := 16 * value + digit
        if missing ≤ 1 then scanText .plain (read.addUnit value rest) rest
        else scanText (.unit (missing - 1) value) read rest

/-! ## tokens -/

inductive Token where
  | openArray | closeArray | openObject | closeObject | comma | colon
  /-- Flawed where a unit is half of a pair. -/
  | text (value : Except Flaw String)
  /-- A number or a word; flawed where a number is too large. -/
  | scalar (value : Except Flaw Json)
  /-- What cannot be read to its end. -/
  | broken (isText : Bool) (flaw : Flaw)
  | ending

/-- A token and where it begins and ends. -/
structure PlacedToken where
  token : Token
  start : Position
  stop : Position

def isSpace (c : Char) : Bool := c = ' ' || c = '\n' || c = '\t' || c = '\r'

/-- The rest of a word. -/
def scanWord : List Char → List Char → Except Stop (List Char)
  | [], rest => .ok rest
  | _ :: _, [] => .error Numeral.unfinished
  | expected :: word, c :: rest =>
    if c = expected then scanWord word rest else .error ⟨"expected ident", rest, false⟩

/-- The token that begins with a character at a place, and the rest; a token that is broken leaves
no rest. -/
def scanToken (start : Position) (c : Char) (rest : List Char) : Token × List Char :=
  let chars := c :: rest
  let flaw (stop : Stop) : Flaw := stop.flaw start chars
  let word (value : Json) (letters : List Char) : Token × List Char :=
    match scanWord letters rest with
    | .ok rest => (.scalar (.ok value), rest)
    | .error stop => (.broken false (flaw stop), [])
  match c with
  | '[' => (.openArray, rest)
  | ']' => (.closeArray, rest)
  | '{' => (.openObject, rest)
  | '}' => (.closeObject, rest)
  | ',' => (.comma, rest)
  | ':' => (.colon, rest)
  | 'n' => word .null ['u', 'l', 'l']
  | 't' => word (.boolean true) ['r', 'u', 'e']
  | 'f' => word (.boolean false) ['a', 'l', 's', 'e']
  | '"' =>
    match scanText .plain {} rest with
    | .ok (value, rest) => (.text (value.mapError flaw), rest)
    | .error stop => (.broken true (flaw stop), [])
  | c =>
    if c = '-' || c.isDigit then
      match Numeral.scan chars with
      | .ok (some value, rest) => (.scalar (.ok value), rest)
      | .ok (none, rest) => (.scalar (.error (flaw ⟨"number out of range", rest, false⟩)), rest)
      | .error stop => (.broken false (flaw stop), [])
    else (.broken false (flaw ⟨"expected value", chars, true⟩), [])

/-- Cuts a text into at most `bound` tokens and spaces; `read` holds the tokens so far, the last
first. -/
def scan (bound : Nat) (read : List PlacedToken) (start : Position) (chars : List Char) :
    List PlacedToken :=
  match bound, chars with
  | 0, _ | _, [] => (⟨.ending, start, start⟩ :: read).reverse
  | bound + 1, c :: rest =>
    if isSpace c then scan bound read (start.next c) rest
    else
      let (token, others) := scanToken start c rest
      let stop := start.after ((c :: rest).take (rest.length + 1 - others.length))
      scan bound (⟨token, start, stop⟩ :: read) stop others

def tokens (text : String) : List PlacedToken :=
  let chars := text.toList
  scan chars.length [] {} chars

end AnalyticsGateway.Json
