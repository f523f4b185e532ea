import AnalyticsGateway.Error
import AnalyticsGateway.Http.MediaType
import AnalyticsGateway.Json.Basic
import AnalyticsGateway.Text.Casing
import AnalyticsGateway.Text.Split

/-!
# HTTP messages
-/

namespace AnalyticsGateway

structure HttpRequest where
  method : String
  /-- The path as it was sent, with a query behind a question mark. -/
  path : String
  headers : List (String × String) := []
  body : String := ""
deriving DecidableEq, Repr, Inhabited

inductive HttpBody where
  | json (value : Json)
  | text (value : String)
deriving Inhabited

structure HttpResponse where
  status : Nat
  retryAfter : Option String := none
  body : HttpBody := .text ""
deriving Inhabited

namespace HttpRequest

/-- Characters that the value of a header is made up of, if it is text at all. -/
def isHeaderChar (c : Char) : Bool := c = '\t' || (' ' ≤ c && c < '\x7f')

/-- The value of a header, whose name may be written in any case. -/
def header? (r : HttpRequest) (name : String) : Option String := do
  let (_, value) ← r.headers.find? fun header => Text.lowerAscii header.1.toList == name
  guard (value.toList.all isHeaderChar)
  return value

/-- What follows the scheme and the host, if the path is written with them. -/
def localPath : List Char → List Char
  | '/' :: rest => '/' :: rest
  | chars =>
    match Text.cutFirst ':' chars with
    | some (_, '/' :: '/' :: rest) => rest.dropWhile fun c => c ∉ ['/', '?', '#']
    | _ => chars

/-- The parts of the path between slashes, without the query. -/
def segments (r : HttpRequest) : List (List Char) :=
  let path := (localPath r.path.toList).takeWhile fun c => c ≠ '?' && c ≠ '#'
  (path.splitOn '/').drop 1

/-- Whether the body is said to be JSON. -/
def saysJson (r : HttpRequest) : Bool :=
  ((r.header? "content-type").bind MediaType.read?).any MediaType.isJson

end HttpRequest

namespace HttpResponse

def ofText (status : Nat) (text : String) : HttpResponse := { status, body := .text text }

def ofJson (json : Json) : HttpResponse := { status := 200, body := .json json }

/-- The response to a failure: its code, its category, and what the caller may read. -/
def ofError (e : GatewayError) : HttpResponse :=
  let error := Json.object
    [("code", .text e.code), ("category", .text e.category), ("message", .text e.userMessage)]
  { status := e.status
    retryAfter := e.retryAfter?.map fun wait => toString wait.secondsUp
    body := .json (.object [("error", error)]) }

/-- The response without its body. -/
def bare (r : HttpResponse) : HttpResponse := { r with body := .text "" }

end HttpResponse

end AnalyticsGateway

/-! ## Status codes -/

namespace AnalyticsGateway.HttpStatus

def phrases : List (Nat × String) :=
  [(100, "Continue"), (101, "Switching Protocols"), (102, "Processing"), (200, "OK"),
   (201, "Created"), (202, "Accepted"), (203, "Non Authoritative Information"), (204, "No Content"),
   (205, "Reset Content"), (206, "Partial Content"), (207, "Multi-Status"),
   (208, "Already Reported"), (226, "IM Used"), (300, "Multiple Choices"),
   (301, "Moved Permanently"), (302, "Found"), (303, "See Other"),
   (304, "Not Modified"), (305, "Use Proxy"), (307, "Temporary Redirect"),
   (308, "Permanent Redirect"), (400, "Bad Request"), (401, "Unauthorized"),
   (402, "Payment Required"), (403, "Forbidden"), (404, "Not Found"), (405, "Method Not Allowed"),
   (406, "Not Acceptable"), (407, "Proxy Authentication Required"), (408, "Request Timeout"),
   (409, "Conflict"), (410, "Gone"), (411, "Length Required"), (412, "Precondition Failed"),
   (413, "Payload Too Large"), (414, "URI Too Long"), (415, "Unsupported Media Type"),
   (416, "Range Not Satisfiable"), (417, "Expectation Failed"), (418, "I'm a teapot"),
   (421, "Misdirected Request"), (422, "Unprocessable Entity"), (423, "Locked"),
   (424, "Failed Dependency"), (425, "Too Early"), (426, "Upgrade Required"),
   (428, "Precondition Required"), (429, "Too Many Requests"),
   (431, "Request Header Fields Too Large"), (451, "Unavailable For Legal Reasons"),
   (500, "Internal Server Error"), (501, "Not Implemented"), (502, "Bad Gateway"),
   (503, "Service Unavailable"), (504, "Gateway Timeout"), (505, "HTTP Version Not Supported"),
   (506, "Variant Also Negotiates"), (507, "Insufficient Storage"), (508, "Loop Detected"),
   (510, "Not Extended"), (511, "Network Authentication Required")]

/-- The code with its customary phrase. -/
def text (code : Nat) : String :=
  let phrase := (phrases.lookup code).getD "<unknown status code>"
  s!"{code} {phrase}"

def isSuccess (code : Nat) : Bool := code / 100 == 2

def isServerError (code : Nat) : Bool := code / 100 == 5

end AnalyticsGateway.HttpStatus
