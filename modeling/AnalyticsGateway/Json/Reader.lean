import AnalyticsGateway.Json.Form
import AnalyticsGateway.Json.Token

/-!
# Reading JSON text

The tokens of a text are read in order by a machine that keeps the open arrays and objects on a
stack, with the form of what each holds. It stops at the first token that is wrong, so of several
faults a text has the first. At most 127 containers may be open when another one is opened that is
not skipped.
-/

namespace AnalyticsGateway.Json

/-- What is wrong with a text: it is no JSON, or it does not have the form that was expected. -/
inductive Fault where
  | malformed (flaw : Flaw)
  | unfit (flaw : Flaw)
deriving DecidableEq, Repr, Inhabited

def Flaw.message (flaw : Flaw) : String := s!"{flaw.reason} at {flaw.position.text}"

def Fault.message : Fault → String
  | malformed flaw | unfit flaw => flaw.message

namespace PlacedToken

/-- A token that may not come next, which shows one byte into it. -/
def wrong (t : PlacedToken) (reason : String) : Fault :=
  match t.token with
  | .ending => .malformed ⟨reason, t.start⟩
  | _ => .malformed ⟨reason, ⟨t.start.line, t.start.column + 1⟩⟩

def unfitStart (t : PlacedToken) (reason : String) : Fault := .unfit ⟨reason, t.start⟩

def unfit (t : PlacedToken) (reason : String) : Fault := .unfit ⟨reason, t.stop⟩

end PlacedToken

/-! ## open containers -/

/-- What an open container holds: its items or fields so far, the last first. -/
inductive Frame where
  | items (item : Form) (fits : Json → Bool) (read : List Json)
  /-- A record as an array. -/
  | positions (title : String) (unread : List Field) (read : List Json)
  | entries (value : Form) (fits : Json → Bool) (key : String) (read : List (String × Json))
  /-- A record as an object; the value of a key that is none is skipped. -/
  | record (title : String) (known : List Field) (key : Option String)
    (read : List (String × Json))
  | tag (contents : List (String × Form)) (key : String) (read : List (String × Json))
  | skippedItems
  | skippedFields

namespace Frame

/-- The frame with one more value. -/
def add (frame : Frame) (value : Json) : Frame :=
  match frame with
  | items item fits read => items item fits (value :: read)
  | positions title unread read => positions title unread.tail (value :: read)
  | entries form fits key read => entries form fits key ((key, value) :: read)
  | record title known (some key) read => record title known none ((key, value) :: read)
  | record title known none read => record title known none read
  | tag contents key read => tag contents key ((key, value) :: read)
  | skippedItems => skippedItems
  | skippedFields => skippedFields

def isArray : Frame → Bool
  | items .. | positions .. | skippedItems => true
  | _ => false

/-- The form of the next item of an array, if it may have one more. -/
def nextItem? : Frame → Option Form
  | items item _ _ => some item
  | positions _ unread _ => unread.head?.map (·.2)
  | skippedItems => some .skipped
  | _ => none

/-- The value of a container at the token that ends it, or why it may not end. -/
def value (frame : Frame) : Except String Json :=
  let checked (fits : Json → Bool) (value : Json) : Except String Json :=
    if fits value then .ok value else .error "data did not match"
  match frame with
  | items _ fits read => checked fits (.array read.reverse)
  | entries _ fits _ read => checked fits (.object read.reverse)
  | positions title unread read =>
    match unread.findIdx? fun field => !field.1.hasDefault with
    | none => .ok (.array read.reverse)
    | some index => .error (tooShort title (read.length + unread.length) (read.length + index))
  | record _ known _ read =>
    let isMissing (field : Field) : Bool :=
      !field.1.hasDefault && !read.any fun given => field.1.accepts given.1
    match known.find? isMissing with
    | none => .ok (.object read.reverse)
    | some field => .error s!"missing field `{field.1.name}`"
  | tag _ _ read => .ok (.object read)
  | skippedItems | skippedFields => .ok .null

end Frame

/-! ## the machine -/

/-- What may come next. -/
inductive Expected where
  | value (form : Form)
  | itemOrEnd
  | keyOrEnd
  | key
  | tagName
  | colon (form : Form)
  | commaOrEnd
  /-- Nothing but the end of an array that has all its items. -/
  | arrayEnd
  /-- A record does not fit, which shows at the next token. -/
  | unfit (reason : String)
  | nothing (value : Json)

abbrev Next := Except Fault (Expected × List Frame)

def maxOpen : Nat := 127

/-- Opens a container within the stack. -/
def push (t : PlacedToken) (frame : Frame) (expected : Expected) (stack : List Frame) : Next :=
  if stack.length < maxOpen then .ok (expected, frame :: stack)
  else .error (t.wrong "recursion limit exceeded")

def beginArray (t : PlacedToken) (stack : List Frame) : Form → Next
  | .skipped => .ok (.itemOrEnd, .skippedItems :: stack)
  | .value fits => push t (.items .any fits []) .itemOrEnd stack
  | .list item => push t (.items item (fun _ => true) []) .itemOrEnd stack
  | .record title fields => push t (.positions title fields []) .itemOrEnd stack
  | .nullable content => beginArray t stack content
  | .name _ | .tagged _ => .error (t.wrong "expected value")
  | .scalar form => .error (t.unfitStart (invalidType "sequence" form.title))
  | .map _ => .error (t.unfitStart (invalidType "sequence" "a map"))

def beginObject (t : PlacedToken) (stack : List Frame) : Form → Next
  | .skipped => .ok (.keyOrEnd, .skippedFields :: stack)
  | .value fits => push t (.entries .any fits "" []) .keyOrEnd stack
  | .map value => push t (.entries value (fun _ => true) "" []) .keyOrEnd stack
  | .record title fields => push t (.record title fields none []) .keyOrEnd stack
  | .name names => push t (.tag (names.map (·, .null)) "" []) .tagName stack
  | .tagged contents => push t (.tag contents "" []) .tagName stack
  | .nullable content => beginObject t stack content
  | .scalar form => .error (t.unfitStart (invalidType "map" form.title))
  | .list _ => .error (t.unfitStart (invalidType "map" "a sequence"))

/-- Puts a value that is complete into the container it belongs to. -/
def deliver (value : Json) : List Frame → Expected × List Frame
  | [] => (.nothing value, [])
  | frame :: stack => (.commaOrEnd, frame.add value :: stack)

/-- A name alone stands for a choice; a tag needs its content. -/
def takeName (t : PlacedToken) (name : String) (names : List String) (isComplete : Bool)
    (stack : List Frame) : Next :=
  if !names.contains name then .error (t.unfit (unknownName name names))
  else if isComplete then .ok (deliver (.text name) stack)
  else .ok (.unfit (invalidType "unit variant" "newtype variant"), stack)

/-- Reads a text, a number or a word as a form asks for it. -/
def takeScalar (t : PlacedToken) (json : Except Flaw Json) (stack : List Frame) : Form → Next
  | .skipped => .ok (deliver .null stack)
  | .nullable content =>
    match json with
    | .ok .null => .ok (deliver .null stack)
    | _ => takeScalar t json stack content
  | form =>
    match form, json with
    | .name names, .ok (.text name) => takeName t name names true stack
    | .tagged contents, .ok (.text name) => takeName t name (contents.map (·.1)) false stack
    | .name _, .ok _ | .tagged _, .ok _ => .error (t.wrong "expected value")
    | _, .error flaw => .error (.malformed flaw)
    | .value fits, .ok json =>
      if fits json then .ok (deliver json stack) else .error (t.unfit "data did not match")
    | .scalar scalar, .ok json =>
      if scalar.fits json then .ok (deliver json stack)
      else .error (t.unfit (scalar.complaint json))
    | .map _, .ok json => .error (t.unfit (invalidType json.described "a map"))
    | .record title _, .ok json => .error (t.unfit (invalidType json.described s!"struct {title}"))
    | _, .ok json => .error (t.unfit (invalidType json.described "a sequence"))

def beginValue (form : Form) (stack : List Frame) (t : PlacedToken) : Next :=
  match t.token with
  | .openArray => beginArray t stack form
  | .openObject => beginObject t stack form
  | .text value => takeScalar t (value.map .text) stack form
  | .scalar value => takeScalar t value stack form
  | .broken _ flaw => .error (.malformed flaw)
  | .ending => .error (t.wrong "EOF while parsing a value")
  | .closeArray | .closeObject | .comma | .colon => .error (t.wrong "expected value")

/-- Takes the key of the next field. -/
def takeKey (t : PlacedToken) (key : Except Flaw String) (stack : List Frame) : Next :=
  match key, stack with
  | _, .skippedFields :: stack => .ok (.colon .skipped, .skippedFields :: stack)
  | .ok key, .entries form fits _ read :: stack =>
    .ok (.colon form, .entries form fits key read :: stack)
  | .ok key, .record title known _ read :: stack =>
    match known.find? fun field => field.1.accepts key with
    | none => .ok (.colon .skipped, .record title known none read :: stack)
    | some (name, form) =>
      if read.any fun given => name.accepts given.1 then
        .ok (.unfit s!"duplicate field `{name.name}`", .record title known none read :: stack)
      else .ok (.colon form, .record title known (some key) read :: stack)
  | .ok key, .tag contents _ read :: stack =>
    match contents.lookup key with
    | some form => .ok (.colon form, .tag contents key read :: stack)
    | none => .error (t.unfit (unknownName key (contents.map (·.1))))
  | .error flaw, _ => .error (.malformed flaw)
  | _, stack => .ok (.keyOrEnd, stack)

def takeComma (t : PlacedToken) : List Frame → Next
  | .positions title [] read :: stack => .ok (.arrayEnd, .positions title [] read :: stack)
  | .tag .. :: _ => .error (.malformed ⟨"expected value", t.start⟩)
  | frame :: stack =>
    match frame.nextItem? with
    | some form => .ok (.value form, frame :: stack)
    | none => .ok (.key, frame :: stack)
  | [] => .error (t.wrong "trailing characters")

/-- Ends the innermost container. -/
def endContainer (t : PlacedToken) : List Frame → Next
  | frame :: stack =>
    match frame.value with
    | .ok value => .ok (deliver value stack)
    | .error reason => .error (t.unfit reason)
  | [] => .error (t.wrong "trailing characters")

/-- Why a token may not follow a value in a container. -/
def afterValueFault (t : PlacedToken) : List Frame → Fault
  | [] => t.wrong "trailing characters"
  | frame :: _ =>
    match t.token, frame with
    | .ending, frame =>
      t.wrong (if frame.isArray then "EOF while parsing a list" else "EOF while parsing an object")
    | _, .tag .. => .malformed ⟨"expected value", t.start⟩
    | _, .positions _ [] _ => t.wrong "trailing characters"
    | _, frame =>
      t.wrong (if frame.isArray then "expected `,` or `]`" else "expected `,` or `\x7d`")

/-- Why a token may not be a key. -/
def keyFault (t : PlacedToken) (isFirst : Bool) (stack : List Frame) : Fault :=
  let isSkipped : Bool := match stack with
    | .skippedFields :: _ => true
    | _ => false
  match t.token with
  | .broken true flaw => .malformed flaw
  | .ending =>
    t.wrong
      (if isFirst || isSkipped then "EOF while parsing an object" else "EOF while parsing a value")
  | .closeObject => t.wrong (if isSkipped then "key must be a string" else "trailing comma")
  | _ => t.wrong "key must be a string"

/-- What follows a token, and the containers that are then open. -/
def step (expected : Expected) (stack : List Frame) (t : PlacedToken) : Next :=
  match expected, t.token with
  | .value form, .closeArray =>
    match stack with
    | .items .. :: _ | .positions .. :: _ => .error (t.wrong "trailing comma")
    | stack => beginValue form stack t
  | .value form, _ => beginValue form stack t
  | .itemOrEnd, .closeArray => endContainer t stack
  | .itemOrEnd, .ending => .error (t.wrong "EOF while parsing a list")
  | .itemOrEnd, _ => beginValue ((stack.head?.bind Frame.nextItem?).getD .skipped) stack t
  | .keyOrEnd, .closeObject => endContainer t stack
  | .keyOrEnd, .text key | .key, .text key => takeKey t key stack
  | .keyOrEnd, _ => .error (keyFault t true stack)
  | .key, _ => .error (keyFault t false stack)
  | .tagName, .text key => takeKey t key stack
  | .tagName, _ => beginValue (.scalar ⟨"variant identifier", fun _ => false, false⟩) stack t
  | .colon form, .colon => .ok (.value form, stack)
  | .colon _, .ending => .error (t.wrong "EOF while parsing an object")
  | .colon _, _ => .error (t.wrong "expected `:`")
  | .commaOrEnd, .comma => takeComma t stack
  | .commaOrEnd, .closeArray =>
    if stack.head?.any (·.isArray) then endContainer t stack else .error (afterValueFault t stack)
  | .commaOrEnd, .closeObject =>
    if stack.head?.any (·.isArray) then .error (afterValueFault t stack) else endContainer t stack
  | .commaOrEnd, _ => .error (afterValueFault t stack)
  | .arrayEnd, .closeArray => .error (t.wrong "trailing comma")
  | .arrayEnd, _ | .nothing _, _ => .error (t.wrong "trailing characters")
  | .unfit reason, .closeArray | .unfit reason, .closeObject => .error (t.unfit reason)
  | .unfit reason, .comma =>
    if stack.head?.any (·.isArray) then .ok (.unfit reason, stack)
    else .error (t.unfitStart reason)
  | .unfit reason, _ => .error (t.unfitStart reason)

def ofTokens (expected : Expected) (stack : List Frame) : List PlacedToken → Except Fault Json
  | [] => .error (.malformed ⟨"EOF while parsing a value", {}⟩)
  | t :: rest =>
    match expected, t.token with
    | .nothing value, .ending => .ok value
    | expected, _ =>
      match step expected stack t with
      | .ok (expected, stack) => ofTokens expected stack rest
      | .error fault => .error fault

/-- The value of a form that a text writes. Fields that the form does not have are left out. -/
def readAs (form : Form) (text : String) : Except Fault Json :=
  ofTokens (.value form) [] (tokens text)

/-- The value that a text writes. -/
def read? (text : String) : Option Json := (readAs .any text).toOption

end AnalyticsGateway.Json
