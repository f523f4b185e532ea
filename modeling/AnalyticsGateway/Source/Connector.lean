import AnalyticsGateway.Source.Druid
import AnalyticsGateway.Source.Engine
import AnalyticsGateway.Source.MySql.Address
import AnalyticsGateway.Source.Postgresql.Address

/-!
# Connectors

What a source needs to be reached is made out from its settings, before any server is asked.
-/

namespace AnalyticsGateway

inductive Access where
  /-- Connections that all sources with this address share. -/
  | sharedPool (address : String)
  /-- Up to `size` connections of the source alone. -/
  | ownPool (address : String) (size : Nat)
  /-- A server that every request reaches by itself. -/
  | broker (base : String)
deriving DecidableEq, Repr, Inhabited

structure Connector where
  id : String
  engine : Engine
  access : Access
deriving DecidableEq, Repr, Inhabited

namespace Access

def postgresql (address : String) : Except SourceError Access := do
  if let .error e := Postgresql.database address then
    throw (.connection s!"Failed to create connection pool: {e.message}")
  match Url.read address with
  | .error e => throw (.connection s!"Invalid PostgreSQL URL: {e.message}")
  | .ok url =>
    if url.scheme ≠ "postgresql" ∧ url.scheme ≠ "postgres" then
      throw (.connection "URL must use postgresql:// or postgres:// scheme")
    return .sharedPool address

/-- The protocol of MySQL, under the name of an engine that speaks it. -/
def mysql (engine : Engine) (address : String) (size : Nat) : Except SourceError Access := do
  match Url.read address with
  | .error e => throw (.connection s!"Invalid {engine.name} URL: {e.message}")
  | .ok url =>
    if url.scheme ≠ "mysql" ∧ url.scheme ≠ "mariadb" then
      throw (.connection "URL must use mysql:// or mariadb:// scheme")
    let address := Text.replacedFirst "mariadb://" "mysql://" address
    match MySql.check address with
    | .error e => throw (.connection s!"Invalid {engine.name} URL: {e.message}")
    | .ok () => return .ownPool address (max size 1)

def doris (address : String) (size : Nat) : Except SourceError Access := do
  match Url.read address with
  | .error e => throw (.connection s!"Invalid Doris URL: {e.message}")
  | .ok url =>
    match url.scheme with
    | "doris" => mysql .doris (Text.replacedFirst "doris://" "mysql://" address) size
    | "mysql" => mysql .doris address size
    | _ => throw (.connection "URL must use doris:// or mysql:// scheme for Doris")

def ofSettings (s : SourceSettings) : Except SourceError Access :=
  match s.engine with
  | .postgresql => postgresql s.url
  | .mysql => mysql .mysql s.url s.poolSize
  | .doris => doris s.url s.poolSize
  | .druid => (Druid.readAddress s.url).map .broker

end Access

namespace Connector

def ofSettings (s : SourceSettings) : Except SourceError Connector :=
  (Access.ofSettings s).map fun access => { id := s.id, engine := s.engine, access }

def brokerBase? (c : Connector) : Option String :=
  match c.access with
  | .broker base => some base
  | _ => none

/-- The addresses of the pools that connectors share. -/
def sharedPools (connectors : List Connector) : List String :=
  (connectors.filterMap fun c => match c.access with
    | .sharedPool address => some address
    | _ => none).eraseDups

end Connector

end AnalyticsGateway
