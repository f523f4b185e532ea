import AnalyticsGateway.Url.Basic

/-!
# Reading URLs

Under the schemes of the web any number of slashes leads to a host, a backslash is a slash, and the
usual port is left out. `file` has no port and no credentials. Any other scheme has a host behind
two slashes only, and may have no path at all.
-/

namespace AnalyticsGateway

inductive SchemeKind where
  | web (usualPort : Nat)
  | file
  | other
deriving DecidableEq, Repr, Inhabited

namespace SchemeKind

def ofScheme : String → SchemeKind
  | "http" | "ws" => web 80
  | "https" | "wss" => web 443
  | "ftp" => web 21
  | "file" => file
  | _ => other

def isSpecial (kind : SchemeKind) : Bool := kind ≠ other

def usualPort? : SchemeKind → Option Nat
  | web port => some port
  | _ => none

def isSlash (kind : SchemeKind) (c : Char) : Bool := c = '/' || (kind.isSpecial && c = '\\')

end SchemeKind

namespace Url

/-! ## parts -/

/-- The text without control characters and blanks at its ends and without line breaks and tabs. -/
def tidy (text : String) : List Char :=
  let inner := ((text.toList.dropWhile (· ≤ ' ')).reverse.dropWhile (· ≤ ' ')).reverse
  inner.filter fun c => c ≠ '\t' && c ≠ '\n' && c ≠ '\r'

def isSchemeChar (c : Char) : Bool := c.isAlphanum || ['+', '-', '.'].contains c

/-- The scheme in small letters and what follows its colon. -/
def scheme? (chars : List Char) : Option (String × List Char) := do
  let (name, rest) ← Text.cutFirst ':' chars
  guard (name.head?.any Char.isAlpha && name.all isSchemeChar)
  return (Text.lowerAscii name, rest)

/-- What stands before the first mark, and what stands after it. -/
def cutAt (mark : Char) (chars : List Char) : List Char × Option (List Char) :=
  match Text.cutFirst mark chars with
  | some (before, after) => (before, some after)
  | none => (chars, none)

/-! ## authorities -/

/-- The host before the first colon that is not between brackets, and the rest. -/
def cutHost (isBracketed : Bool) : List Char → List Char × List Char
  | [] => ([], [])
  | c :: rest =>
    if c = ':' && !isBracketed then ([], c :: rest)
    else
      let isBracketed := if c = '[' then true else if c = ']' then false else isBracketed
      let (host, rest) := cutHost isBracketed rest
      (c :: host, rest)

/-- The port behind a colon, and the rest, which may only begin with a backslash. -/
def readPort (usual : Option Nat) (chars : List Char) :
    Except UrlError (Option Nat × List Char) := do
  match chars with
  | ':' :: chars =>
    let (digits, rest) := chars.span Char.isDigit
    let port := Decimal.natural? digits
    if port.any (wordSize 16 ≤ ·) || rest.head?.any (· ≠ '\\') then throw .badPort
    return (if port = usual then none else port, rest)
  | chars => return (none, chars)

def readHost (kind : SchemeKind) (chars : List Char) (hasPort : Bool) :
    Except UrlError (Option Host) := do
  if chars.isEmpty then
    if kind.isSpecial || hasPort then throw .emptyHost
    return none
  if kind.isSpecial then Host.ofDomain chars else Host.ofName chars

/-- The credentials before the last at sign, and the host and port behind it. Nothing before the
sign needs a host behind it if more follows. -/
def readCredentials (chars : List Char) (goesOn : Bool) :
    Except UrlError (Authority × List Char) := do
  match Text.cutLast ['@'] chars with
  | none => return ({}, chars)
  | some ([], rest) =>
    if rest.isEmpty && goesOn then throw .emptyHost
    return ({}, rest)
  | some (credentials, rest) =>
    let (user, password) := cutAt ':' credentials
    let authority : Authority :=
      { user := escaped escapedInCredentials user
        password := (password.filter (!·.isEmpty)).map (escaped escapedInCredentials) }
    return (authority, rest)

/-- The authority at the beginning of a text, and the path behind it. -/
def readAuthority (kind : SchemeKind) (chars : List Char) (goesOn : Bool) :
    Except UrlError (Authority × List Char) := do
  let (chars, path) := chars.span (!kind.isSlash ·)
  let (authority, chars) ← readCredentials chars (goesOn || !path.isEmpty)
  let (host, chars) := cutHost false chars
  let host ← readHost kind host (!chars.isEmpty)
  let (port, chars) ← readPort kind.usualPort? chars
  if host.isNone && authority.hasCredentials then throw .emptyHost
  return ({ authority with host, port }, chars ++ path)

/-! ## paths -/

/-- Whether a segment is a point, which may be escaped. -/
def isHere (segment : String) : Bool := [".", "%2e", "%2E"].contains segment

def isParent (segment : String) : Bool :=
  ["..", ".%2e", ".%2E", "%2e.", "%2E.", "%2e%2e", "%2e%2E", "%2E%2e", "%2E%2E"].contains segment

def isDriveLetter : List Char → Bool
  | [letter, mark] => letter.isAlpha && (mark = ':' || mark = '|')
  | _ => false

/-- Goes along a path from the segments above, the nearest first. A segment that is a point stays,
one of two points goes up, but not above the drive of a file. -/
def walk (kind : SchemeKind) (above : List String) : List (List Char) → List String
  | [] => above.reverse
  | segment :: rest =>
    let name := escaped escapedInPath segment
    if isParent name then
      let isDrive := kind = .file && above.length = 1 && above.head?.any (isDriveLetter ·.toList)
      let above := if isDrive then above else above.drop 1
      walk kind (if rest.isEmpty then "" :: above else above) rest
    else if isHere name then walk kind (if rest.isEmpty then "" :: above else above) rest
    else if kind = .file && above.isEmpty && isDriveLetter segment then
      walk kind (String.ofList (segment.take 1 ++ [':']) :: above) rest
    else walk kind (name :: above) rest

def segments (kind : SchemeKind) (chars : List Char) : List String :=
  let chars := chars.map fun c => if kind.isSlash c then '/' else c
  let chars := if chars.head? = some '/' then chars.drop 1 else chars
  walk kind [] (Text.cutAll '/' [] chars)

/-- The path behind an authority; only the schemes of the web always have one. -/
def pathBehind (kind : SchemeKind) (chars : List Char) : UrlPath :=
  if chars.isEmpty && kind = .other then .segments [] else .segments (segments kind chars)

/-! ## files -/

def filePath (chars : List Char) : UrlPath :=
  match (segments .file chars).dropWhile (· = "") with
  | [] => .segments [""]
  | names => .segments names

/-- A host stands behind two slashes, if it is not this one and not a drive. -/
def readFile (chars : List Char) : Except UrlError (Authority × UrlPath) := do
  match chars.span SchemeKind.file.isSlash with
  | (_ :: _ :: _, _) =>
    let behind := chars.drop 2
    let (host, path) := behind.span (!SchemeKind.file.isSlash ·)
    if host.isEmpty then return ({}, filePath path)
    if isDriveLetter host then return ({}, filePath behind)
    let host ← Host.ofDomain host
    return (if host = .name "localhost" then {} else { host }, filePath path)
  | _ => return ({}, filePath chars)

/-! ## URLs -/

def read (text : String) : Except UrlError Url := do
  let some (scheme, rest) := scheme? (tidy text) | throw .noScheme
  let kind := SchemeKind.ofScheme scheme
  let (rest, fragment) := cutAt '#' rest
  let (rest, query) := cutAt '?' rest
  let url : Url :=
    { scheme
      query := query.map (escaped (escapedInQuery kind.isSpecial))
      fragment := fragment.map (escaped escapedInFragment) }
  let goesOn := query.isSome || fragment.isSome
  match kind, rest with
  | .web _, rest =>
    let (authority, path) ← readAuthority kind (rest.dropWhile kind.isSlash) goesOn
    return { url with authority, path := pathBehind kind path }
  | .file, rest =>
    let (authority, path) ← readFile rest
    return { url with authority, path }
  | .other, '/' :: '/' :: rest =>
    let (authority, path) ← readAuthority kind rest goesOn
    return { url with authority, path := pathBehind kind path }
  | .other, '/' :: rest => return { url with path := .segments (segments kind ('/' :: rest)) }
  | .other, rest => return { url with path := .bare (escaped isControl rest) }

/-- A URL without its password, fit to be shown; another text is not shown at all. -/
def mask (text : String) : String :=
  match read text with
  | .ok url => url.masked.text
  | .error _ => "[invalid-url]"

end Url

end AnalyticsGateway
