import AnalyticsGateway.Url.Basic
import AnalyticsGateway.Url.Reader

/-!
# Addresses of MySQL servers
-/

namespace AnalyticsGateway.MySql

inductive AddressError where
  | noUrl (fault : UrlError)
  | badScheme (scheme : String)
  | incomplete
  | unknownParameter (name : String)
  | badParameter (name value : String)
  | badPool
deriving DecidableEq, Repr, Inhabited

def AddressError.message : AddressError → String
  | noUrl fault => fault.message
  | badScheme scheme => s!"the scheme {scheme} is not supported"
  | incomplete => "the address is incomplete"
  | unknownParameter name => s!"unknown parameter {name}"
  | badParameter name value => s!"bad value {value} for the parameter {name}"
  | badPool => "a pool cannot keep more connections than it may have"

/-! ## parameters -/

inductive ParameterKind where
  | flag
  | number (bits : Nat)
  | compression
  | text
deriving DecidableEq, Repr, Inhabited

namespace ParameterKind

def admits (kind : ParameterKind) (value : String) : Bool :=
  match kind with
  | flag => ["true", "false"].contains value
  | number bits => (Decimal.naturalBelow? (wordSize bits) value).isSome
  | compression =>
    ["fast", "on", "true", "best"].contains value ||
      (value.length = 1 && value.toList.all Char.isDigit)
  | text => true

end ParameterKind

def parameterKinds : List (String × ParameterKind) :=
  [("pool_min", .number 64), ("pool_max", .number 64), ("inactive_connection_ttl", .number 64),
   ("ttl_check_interval", .number 64), ("conn_ttl", .number 64), ("abs_conn_ttl", .number 64),
   ("abs_conn_ttl_jitter", .number 64), ("tcp_keepalive", .number 32),
   ("max_allowed_packet", .number 64), ("wait_timeout", .number 64),
   ("stmt_cache_size", .number 64), ("enable_cleartext_plugin", .flag), ("reset_connection", .flag),
   ("tcp_nodelay", .flag), ("prefer_socket", .flag), ("secure_auth", .flag),
   ("client_found_rows", .flag), ("require_ssl", .flag), ("verify_ca", .flag),
   ("verify_identity", .flag), ("built_in_roots", .flag), ("compression", .compression),
   ("socket", .text)]

def checkParameter : String × String → Except AddressError Unit
  | (name, value) =>
    match parameterKinds.lookup name with
    | none => .error (.unknownParameter name)
    | some kind => if kind.admits value then .ok () else .error (.badParameter name value)

/-- The last value of a number among the parameters. -/
def numberOf (name : String) (default : Nat) (parameters : List (String × String)) : Nat :=
  ((parameters.reverse.lookup name).bind (Decimal.naturalBelow? (wordSize 64))).getD default

/-! ## addresses -/

/-- What a driver of the protocol asks of an address: the scheme `mysql`, a host, and parameters
that it knows. A pool has from 10 to 100 connections unless its parameters say otherwise. -/
def check (address : String) : Except AddressError Unit := do
  let url ← (Url.read address).mapError .noUrl
  if url.scheme ≠ "mysql" then throw (.badScheme url.scheme)
  if url.host?.isNone then throw .incomplete
  let parameters := url.formPairs
  parameters.forM checkParameter
  if numberOf "pool_max" 100 parameters < numberOf "pool_min" 10 parameters then throw .badPool

end AnalyticsGateway.MySql
