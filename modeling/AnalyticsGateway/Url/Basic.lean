import AnalyticsGateway.Url.Host

/-!
# URLs
-/

namespace AnalyticsGateway

/-- Who is asked, and as whom. -/
structure Authority where
  user : String := ""
  password : Option String := none
  host : Option Host := none
  port : Option Nat := none
deriving DecidableEq, Repr, Inhabited

inductive UrlPath where
  | segments (names : List String)
  /-- A path that does not begin with a slash. -/
  | bare (text : String)
deriving DecidableEq, Repr, Inhabited

/-- Every part but the address is held as it is written, with its escapes. -/
structure Url where
  scheme : String
  authority : Option Authority := none
  path : UrlPath := .segments []
  query : Option String := none
  fragment : Option String := none
deriving DecidableEq, Repr, Inhabited

/-! ## in text -/

/-- The text behind a mark, if there is one. -/
def marked (mark : String) : Option String → String
  | none => ""
  | some text => mark ++ text

namespace Authority

def hasCredentials (a : Authority) : Bool := a.user ≠ "" || a.password.isSome

def credentials (a : Authority) : String :=
  if a.hasCredentials then a.user ++ marked ":" a.password ++ "@" else ""

def text (a : Authority) : String :=
  a.credentials ++ marked "" (a.host.map Host.text) ++ marked ":" (a.port.map toString)

end Authority

namespace UrlPath

def text : UrlPath → String
  | segments names => names.foldl (fun text name => text ++ "/" ++ name) ""
  | bare text => text

/-- Whether its text would be taken for an authority. -/
def looksLikeAuthority : UrlPath → Bool
  | segments ("" :: _ :: _) => true
  | _ => false

end UrlPath

namespace Url

def text (u : Url) : String :=
  let mark := if u.authority.isNone && u.path.looksLikeAuthority then "/." else ""
  u.scheme ++ ":" ++ marked "//" (u.authority.map Authority.text) ++ mark ++ u.path.text ++
    marked "?" u.query ++ marked "#" u.fragment

def host? (u : Url) : Option Host := u.authority.bind Authority.host

def port? (u : Url) : Option Nat := u.authority.bind Authority.port

/-- The URL with stars for the password. -/
def masked (u : Url) : Url :=
  { u with
    authority := u.authority.map fun a => { a with password := a.password.map fun _ => "***" } }

end Url

end AnalyticsGateway

/-! ## Queries as forms

Pairs of a name and a value between ampersands; a plus sign is a blank.
-/

namespace AnalyticsGateway.Url

/-- The text of a name or a value; bytes that are no text become a replacement character. -/
def formText (chars : List Char) : String :=
  (Text.Percent.decode? (chars.map fun c => if c = '+' then ' ' else c)).getD "\ufffd"

def formPair (chars : List Char) : String × String :=
  let (name, value) := (Text.cutFirst '=' chars).getD (chars, [])
  (formText name, formText value)

def formPairs (u : Url) : List (String × String) :=
  let parts := Text.cutAll '&' [] (u.query.getD "").toList
  (parts.filter (!·.isEmpty)).map formPair

end AnalyticsGateway.Url
