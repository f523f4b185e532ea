import AnalyticsGateway.Decimal.Reader
import AnalyticsGateway.Text.Percent
import AnalyticsGateway.Text.Split
import AnalyticsGateway.Url.Domain

/-!
# Hosts

A host is a name or an address of the Internet Protocol. Under the schemes of the web a name is a
domain: in small letters, in ASCII, and an address of version 4 where its last part is a number.
-/

namespace AnalyticsGateway

/-! ## Texts that are no URL -/

inductive UrlError where
  | noScheme
  | emptyHost
  | badDomain
  | forbiddenInDomain
  | badIpv4
  | badIpv6
  | badPort
deriving DecidableEq, Repr, Inhabited

def UrlError.message : UrlError → String
  | noScheme => "relative URL without a base"
  | emptyHost => "empty host"
  | badDomain => "invalid international domain name"
  | forbiddenInDomain => "invalid domain character"
  | badIpv4 => "invalid IPv4 address"
  | badIpv6 => "invalid IPv6 address"
  | badPort => "invalid port number"

end AnalyticsGateway

/-! ## What each part of a URL escapes -/

namespace AnalyticsGateway.Url

def isControl (c : Char) : Bool := c < ' ' || '\x7f' ≤ c

def escapedInQuery (isSpecial : Bool) (c : Char) : Bool :=
  isControl c || [' ', '"', '#', '<', '>'].contains c || (isSpecial && c = '\x27')

def escapedInFragment (c : Char) : Bool := isControl c || [' ', '"', '<', '>', '\x60'].contains c

def escapedInPath (c : Char) : Bool :=
  escapedInFragment c || ['#', '?', '\x7b', '\x7d'].contains c

def escapedInCredentials (c : Char) : Bool :=
  escapedInPath c || ['/', ':', ';', '=', '@', '[', '\\', ']', '^', '|'].contains c

def escaped (isEscaped : Char → Bool) (chars : List Char) : String :=
  String.ofList (Text.Percent.encode isEscaped chars)

end AnalyticsGateway.Url

namespace AnalyticsGateway

inductive Host where
  | name (text : String)
  | ipv4 (address : Nat)
  /-- Eight numbers of 16 bits. -/
  | ipv6 (pieces : List Nat)
deriving DecidableEq, Repr, Inhabited

namespace Host

/-! ## in text -/

/-- Four numbers of 8 bits between points. -/
def dotted (address : Nat) : String :=
  ".".intercalate ([24, 16, 8, 0].map fun shift => toString ((address >>> shift) % 256))

/-- Where the longest run of zeros begins, and how long it is; the first of equal runs counts. -/
def longestZeros (position : Nat) : List Nat → Nat × Nat
  | [] => (position, 0)
  | piece :: rest =>
    let run := ((piece :: rest).takeWhile (· = 0)).length
    let (start, length) := longestZeros (position + 1) rest
    if length ≤ run then (position, run) else (start, length)

def hexadecimals (pieces : List Nat) : String :=
  ":".intercalate (pieces.map fun piece => String.ofList (Nat.toDigits 16 piece))

/-- Numbers in hexadecimal between colons; two colons stand for the longest run of zeros. -/
def colonSeparated (pieces : List Nat) : String :=
  let (start, length) := longestZeros 0 pieces
  if length < 2 then hexadecimals pieces
  else hexadecimals (pieces.take start) ++ "::" ++ hexadecimals (pieces.drop (start + length))

def text : Host → String
  | name text => text
  | ipv4 address => dotted address
  | ipv6 pieces => "[" ++ colonSeparated pieces ++ "]"

/-! ## addresses of version 4 -/

def numeral? (base : Nat) (digits : List Char) : Option Nat :=
  digits.foldlM (fun n c => do
    let digit ← Text.hexDigit? c
    guard (digit < base)
    return base * n + digit) 0

/-- A number in decimal, with a zero in front in octal, with `0x` in front in hexadecimal. -/
def ipv4Number? : List Char → Option Nat
  | [] => none
  | '0' :: 'x' :: digits | '0' :: 'X' :: digits => numeral? 16 digits
  | '0' :: digits => numeral? 8 digits
  | digits => numeral? 10 digits

/-- The parts between points; a point at the end has no part behind it. -/
def domainParts (domain : List Char) : List (List Char) :=
  let parts := Text.cutAll '.' [] domain
  if 1 < parts.length ∧ parts.getLast? = some [] then parts.dropLast else parts

def endsInNumber (domain : List Char) : Bool :=
  match (domainParts domain).getLast? with
  | none => false
  | some last => (!last.isEmpty && last.all Char.isDigit) || (ipv4Number? last).isSome

/-- Up to four numbers, the last of which fills the places that are left. -/
def ipv4? (domain : List Char) : Option Nat := do
  let numbers ← (domainParts domain).mapM ipv4Number?
  let last ← numbers.getLast?
  let first := numbers.dropLast
  guard (first.length < 4 ∧ first.all (· < 256) ∧ last < Nat.pow 256 (4 - first.length))
  return first.foldl (fun n byte => 256 * n + byte) 0 * Nat.pow 256 (4 - first.length) + last

/-! ## addresses of version 6 -/

def piece? (digits : List Char) : Option Nat := do
  guard (digits.length ∈ [1, 2, 3, 4])
  numeral? 16 digits

/-- Four decimal numbers below 256, without zeros in front. -/
def strictIpv4? (chars : List Char) : Option (List Nat) := do
  let parts := Text.cutAll '.' [] chars
  guard (parts.length = 4)
  parts.mapM fun part => do
    let n ← Decimal.natural? part
    guard (n < 256 ∧ (part.head? = some '0' → part.length = 1))
    return n

/-- The pieces between colons, the last of which may be an address of version 4. -/
def pieces? (mayEndInIpv4 : Bool) (chars : List Char) : Option (List Nat) :=
  if chars.isEmpty then some [] else do
    let parts := Text.cutAll ':' [] chars
    let last ← parts.getLast?
    let tail ← if mayEndInIpv4 && last.contains '.' then do
        let bytes ← strictIpv4? last
        pure [bytes.getD 0 0 * 256 + bytes.getD 1 0, bytes.getD 2 0 * 256 + bytes.getD 3 0]
      else (piece? last).map ([·])
    return (← parts.dropLast.mapM piece?) ++ tail

/-- What stands before and after the first pair of colons. -/
def cutColons : List Char → Option (List Char × List Char)
  | ':' :: ':' :: rest => some ([], rest)
  | c :: rest => (cutColons rest).map fun cut => (c :: cut.1, cut.2)
  | [] => none

def ipv6? (chars : List Char) : Option Host :=
  match cutColons chars with
  | none => do
    let pieces ← pieces? true chars
    guard (pieces.length = 8)
    return .ipv6 pieces
  | some (before, after) => do
    let left ← pieces? false before
    let right ← pieces? true after
    guard (left.length + right.length < 8)
    return .ipv6 (left ++ List.replicate (8 - left.length - right.length) 0 ++ right)

/-- An address of version 6 between brackets. -/
def bracketed (chars : List Char) : Except UrlError Host :=
  if chars.getLast? ≠ some ']' then .error .badIpv6
  else match ipv6? (chars.drop 1).dropLast with
    | some host => .ok host
    | none => .error .badIpv6

/-! ## names -/

def forbiddenInName (c : Char) : Bool :=
  ['\x00', '\t', '\n', '\r', ' ', '#', '/', ':', '<', '>', '?', '@', '[', '\\', ']', '^',
    '|'].contains c

/-- The host under a scheme of the web. -/
def ofDomain (chars : List Char) : Except UrlError Host :=
  if chars.head? = some '[' then bracketed chars
  else
    match (Text.Percent.decode? chars).bind fun decoded => Domain.toAscii? decoded.toList with
    | none => .error .badDomain
    | some domain =>
      if domain.isEmpty then .error .emptyHost
      else if endsInNumber domain then
        match ipv4? domain with
        | some address => .ok (.ipv4 address)
        | none => .error .badIpv4
      else .ok (.name (String.ofList domain))

/-- The host under any other scheme. -/
def ofName (chars : List Char) : Except UrlError Host :=
  if chars.head? = some '[' then bracketed chars
  else if chars.any forbiddenInName then .error .forbiddenInDomain
  else .ok (.name (Url.escaped Url.isControl chars))

end Host

end AnalyticsGateway
