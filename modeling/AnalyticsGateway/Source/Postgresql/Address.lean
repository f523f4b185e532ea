import AnalyticsGateway.Text.Blank
import AnalyticsGateway.Url.Host

/-!
# Addresses of PostgreSQL servers

An address is a URL, which is read more loosely than other URLs, or a list of keywords with values.
Both name parameters; a pool of connections needs one that names a database.
-/

namespace AnalyticsGateway.Postgresql

inductive AddressError where
  | unreadable
  | noDatabase
  | emptyDatabase
deriving DecidableEq, Repr, Inhabited

def AddressError.message : AddressError → String
  | unreadable => "the address cannot be read"
  | noDatabase => "the address names no database"
  | emptyDatabase => "the name of the database is empty"

abbrev Parameter := String × String

/-! ## values -/

def isAddress (text : String) : Bool :=
  (Host.strictIpv4? text.toList).isSome || (Host.ipv6? text.toList).isSome

def admits : Parameter → Bool
  | (name, value) =>
    match name with
    | "user" | "password" | "dbname" | "options" | "application_name" | "host" => true
    | "sslmode" | "channel_binding" => ["disable", "prefer", "require"].contains value
    | "sslnegotiation" => ["postgres", "direct"].contains value
    | "hostaddr" => (Text.splitAll ',' value).all isAddress
    | "port" =>
      (Text.splitAll ',' value).all fun port =>
        port = "" || (Decimal.naturalBelow? (wordSize 16) port).isSome
    | "connect_timeout" | "tcp_user_timeout" | "keepalives_idle" | "keepalives_interval" =>
      (Decimal.integer64? value).isSome
    | "keepalives" => (Decimal.naturalBelow? (wordSize 64) value).isSome
    | "keepalives_retries" => (Decimal.naturalBelow? (wordSize 32) value).isSome
    | "target_session_attrs" => ["any", "read-write", "read-only"].contains value
    | "load_balance_hosts" => ["disable", "random"].contains value
    | _ => false

/-! ## keywords with values -/

inductive KeywordState where
  | between
  | keyword (name : List Char)
  /-- Behind a keyword, before its equals sign. -/
  | named (name : List Char)
  | equated (name : List Char)
  | plain (name value : List Char) (isEscaped : Bool)
  | quoted (name value : List Char) (isEscaped : Bool)

def parameter (name value : List Char) : Parameter := (String.ofList name, String.ofList value)

/-- An equals sign without a keyword ends the list. -/
def keywordsFrom : KeywordState → List Char → Option (List Parameter)
  | .between, [] => some []
  | .plain name value _, [] => if value.isEmpty then none else some [parameter name value]
  | _, [] => none
  | .between, c :: rest =>
    if Text.isBlank c then keywordsFrom .between rest
    else if c = '=' then some []
    else keywordsFrom (.keyword [c]) rest
  | .keyword name, c :: rest =>
    if Text.isBlank c then keywordsFrom (.named name) rest
    else if c = '=' then keywordsFrom (.equated name) rest
    else keywordsFrom (.keyword (name ++ [c])) rest
  | .named name, c :: rest =>
    if Text.isBlank c then keywordsFrom (.named name) rest
    else if c = '=' then keywordsFrom (.equated name) rest
    else none
  | .equated name, c :: rest =>
    if Text.isBlank c then keywordsFrom (.equated name) rest
    else if c = '\x27' then keywordsFrom (.quoted name [] false) rest
    else if c = '\\' then keywordsFrom (.plain name [] true) rest
    else keywordsFrom (.plain name [c] false) rest
  | .plain name value true, c :: rest => keywordsFrom (.plain name (value ++ [c]) false) rest
  | .plain name value false, c :: rest =>
    if Text.isBlank c then (keywordsFrom .between rest).map (parameter name value :: ·)
    else if c = '\\' then keywordsFrom (.plain name value true) rest
    else keywordsFrom (.plain name (value ++ [c]) false) rest
  | .quoted name value true, c :: rest => keywordsFrom (.quoted name (value ++ [c]) false) rest
  | .quoted name value false, c :: rest =>
    if c = '\x27' then (keywordsFrom .between rest).map (parameter name value :: ·)
    else if c = '\\' then keywordsFrom (.quoted name value true) rest
    else keywordsFrom (.quoted name (value ++ [c]) false) rest

/-! ## URLs -/

/-- A path to a socket may be of any bytes, a name has to be a text. -/
def hostParameter? (chars : List Char) : Option Parameter :=
  if (Text.Percent.bytes chars).head? = some '/'.toUInt8 then some (parameter "host".toList chars)
  else (Text.Percent.decode? chars).map ("host", ·)

def portParameter? (chars : List Char) : Option Parameter :=
  (Text.Percent.decode? chars).map ("port", ·)

/-- One server of several between commas; an address with colons stands between brackets. -/
def serverParameters? (chars : List Char) : Option (List Parameter) := do
  let (host, port) ← match chars with
    | '[' :: chars => do
      let (host, rest) ← Text.cutFirst ']' chars
      match rest with
      | [] => pure (host, none)
      | ':' :: port => pure (host, some port)
      | _ => none
    | chars =>
      match Text.cutFirst ':' chars with
      | some (host, port) => pure (host, some port)
      | none => pure (chars, none)
  return [← hostParameter? host, ← portParameter? (port.getD "5432".toList)]

def serversParameters? (chars : List Char) : Option (List Parameter) :=
  if chars.isEmpty then some []
  else ((Text.cutAll ',' [] chars).mapM serverParameters?).map List.flatten

/-- The name before the first at sign; a password is left out, since it may be of any bytes. -/
def userParameters? (chars : List Char) : Option (List Parameter × List Char) :=
  match Text.cutFirst '@' chars with
  | none => some ([], chars)
  | some (credentials, rest) => do
    let user := ((Text.cutFirst ':' credentials).map (·.1)).getD credentials
    return ([("user", ← Text.Percent.decode? user)], rest)

def databaseParameters? : List Char → Option (List Parameter)
  | '/' :: c :: name => (Text.Percent.decode? (c :: name)).map fun name => [("dbname", name)]
  | _ => some []

/-- Names and values between ampersands, where a name goes up to the next equals sign. -/
def queryParameters? (chars : List Char) : Option (List Parameter) :=
  if chars.isEmpty then some [] else
  match _split : Text.cutFirst '=' chars with
  | none => none
  | some (name, rest) => do
    let name ← Text.Percent.decode? name
    let value := rest.takeWhile (· ≠ '&')
    let first ← if name = "host" then hostParameter? value
      else (Text.Percent.decode? value).map (name, ·)
    return first :: (← queryParameters? ((rest.dropWhile (· ≠ '&')).drop 1))
termination_by chars.length
decreasing_by
  have whole := (Text.cutFirst_eq_some_iff.1 _split).1
  have shorter := (List.dropWhile_sublist (l := rest) (· ≠ '&')).length_le
  simp only [whole, List.length_append, List.length_cons, List.length_drop]
  omega

/-- The parameters of what stands behind the scheme of a URL. -/
def urlParameters? (chars : List Char) : Option (List Parameter) := do
  let (user, rest) ← userParameters? chars
  let (servers, rest) := rest.span fun c => c ≠ '/' && c ≠ '?'
  let (database, query) :=
    if rest.head? = some '/' then rest.span (· ≠ '?') else ([], rest)
  let servers ← serversParameters? servers
  let database ← databaseParameters? database
  return user ++ servers ++ database ++ (← queryParameters? (query.drop 1))

/-! ## addresses -/

def schemes : List String := ["postgres://", "postgresql://"]

def parameters? (address : String) : Option (List Parameter) := do
  let chars := address.toList
  let parameters ← match schemes.find? (·.toList.isPrefixOf chars) with
    | some scheme => urlParameters? (chars.drop scheme.length)
    | none => keywordsFrom .between chars
  guard (parameters.all admits)
  return parameters

/-- The database that an address names, by its last parameter that does. -/
def database (address : String) : Except AddressError String :=
  match parameters? address with
  | none => .error .unreadable
  | some parameters =>
    match parameters.reverse.lookup "dbname" with
    | none => .error .noDatabase
    | some "" => .error .emptyDatabase
    | some name => .ok name

end AnalyticsGateway.Postgresql
