/-!
# Failures of a source
-/

namespace AnalyticsGateway

/-- The kinds of failure that all engines share. -/
inductive FailureKind where
  | connection | credentials | statement | resource
deriving DecidableEq, Repr, Inhabited

namespace FailureKind

def all : List FailureKind := [.connection, .credentials, .statement, .resource]

def name : FailureKind → String
  | connection => "connection"
  | credentials => "auth"
  | statement => "syntax"
  | resource => "resource"

def named? (text : String) : Option FailureKind := all.find? fun kind => kind.name == text

end FailureKind

structure SourceError where
  kind : FailureKind
  detail : String
  /-- Whether the statement cannot have reached the engine. -/
  transient : Bool := false
deriving DecidableEq, Repr, Inhabited

namespace SourceError

def connection (detail : String) : SourceError := { kind := .connection, detail }

def message (e : SourceError) : String := s!"{e.kind.name} error: {e.detail}"

/-- Whether the same statement may be sent once more. -/
def isRetryable (e : SourceError) : Bool := e.kind == .resource && e.transient

end SourceError

/-! ## Links to servers -/

/-- Why a server cannot be reached. -/
structure LinkFault where
  code : Nat
  text : String
deriving DecidableEq, Repr, Inhabited

namespace LinkFault

def networkUnreachable : LinkFault := ⟨101, "Network is unreachable"⟩

def message (f : LinkFault) : String := s!"{f.text} (os error {f.code})"

end LinkFault

/-- The failure that a server reports. -/
structure ServerFault where
  code : String
  message : String
deriving DecidableEq, Repr, Inhabited

end AnalyticsGateway
